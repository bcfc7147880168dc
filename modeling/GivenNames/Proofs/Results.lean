/-!
Results that may be faults: what the steps of a computation in `Except` gave, read off its end.
-/

namespace GivenNames

variable {ε δ α β : Type} {e : Except ε α} {x : α} {y : β} {fault : ε} {cause : δ}

theorem bind_eq_ok_iff {f : α → Except ε β} : e >>= f = .ok y ↔ ∃ x, e = .ok x ∧ f x = .ok y := by
  cases e <;> simp [bind, Except.bind]

theorem bind_eq_error_iff {f : α → Except ε β} :
    e >>= f = .error fault ↔ e = .error fault ∨ ∃ x, e = .ok x ∧ f x = .error fault := by
  cases e <;> simp [bind, Except.bind]

theorem map_eq_ok_iff {f : α → β} : e.map f = .ok y ↔ ∃ x, e = .ok x ∧ f x = y := by
  cases e <;> simp [Except.map]

theorem map_eq_error_iff {f : α → β} : e.map f = .error fault ↔ e = .error fault := by
  cases e <;> simp [Except.map]

@[simp] theorem mapError_ok (f : ε → δ) (x : α) :
    (Except.ok x : Except ε α).mapError f = .ok x := rfl

@[simp] theorem mapError_error (f : ε → δ) (fault : ε) :
    (Except.error fault : Except ε α).mapError f = .error (f fault) := rfl

theorem mapError_eq_ok_iff {f : ε → δ} : e.mapError f = .ok x ↔ e = .ok x := by
  cases e <;> simp

theorem mapError_eq_error_iff {f : ε → δ} :
    e.mapError f = .error cause ↔ ∃ fault, e = .error fault ∧ f fault = cause := by
  cases e <;> simp

theorem toOption_eq_some_iff : e.toOption = some x ↔ e = .ok x := by
  cases e <;> simp [Except.toOption]

end GivenNames
