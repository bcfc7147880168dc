import GivenNames.Proofs.Json.Members
import GivenNames.Proofs.Results

/-!
Members as they come.

A record takes the members of an object one after the other and passes over those that none of its
slots knows. Main statements: the members are taken exactly when each slot is left alone or filled
once, with a value of its form (`exists_ofMembers_iff`), and a part of the record that one slot puts
and the others leave as it is ends up as the value that fills this slot (`ends_of_ofMembers`).
-/

namespace GivenNames.Json

variable {α γ : Type}

/-! ### Slots known by their names -/

/-- Slots that are known by their names alone, each of another name. -/
structure Keyed (slots : List (Slot α)) : Prop where
  bare : ∀ slot ∈ slots, slot.aliases = []
  distinct : (slots.map Slot.name).Nodup

theorem Keyed.find?_eq_some_iff {slots : List (Slot α)} (keyed : Keyed slots) {key : String}
    {slot : Slot α} :
    slots.find? (·.isFor key) = some slot ↔ slot ∈ slots ∧ slot.name = key := by
  have named : ∀ s ∈ slots, s.isFor key = true → s.name = key := by
    intro s here known
    simpa [Slot.isFor, keyed.bare s here] using known
  constructor
  · intro found
    have here := List.mem_of_find?_eq_some found
    have known : slot.isFor key = true := by simpa using List.find?_some found
    exact ⟨here, named slot here known⟩
  · rintro ⟨here, rfl⟩
    cases found : slots.find? (·.isFor slot.name) with
    | none =>
        have unknown := List.find?_eq_none.mp found slot here
        simp [Slot.isFor] at unknown
    | some other =>
        have there := List.mem_of_find?_eq_some found
        have known : other.isFor slot.name = true := by simpa using List.find?_some found
        have same := named other there known
        rw [List.inj_on_of_nodup_map keyed.distinct there here same]

/-- The members with a key. -/
def membersAt (key : String) (members : List (String × Json)) : List (String × Json) :=
  members.filter fun m => m.1 = key

section MembersAt

variable {key other : String} {value : Json} {members : List (String × Json)}

theorem membersAt_cons_here :
    membersAt key ((key, value) :: members) = (key, value) :: membersAt key members :=
  List.filter_cons_of_pos (by simp)

theorem membersAt_cons_other (different : other ≠ key) :
    membersAt key ((other, value) :: members) = membersAt key members :=
  List.filter_cons_of_neg (by simpa using different)

end MembersAt

/-- Members leave a slot alone, or fill it once and while it is free. -/
def Slot.Fits (slot : Slot α) (filled : List String) (members : List (String × Json)) : Prop :=
  membersAt slot.name members = [] ∨
    slot.name ∉ filled ∧ ∃ value put, membersAt slot.name members = [(slot.name, value)] ∧
      slot.form.ofValue value = .ok put

namespace Form

/-! ### One member -/

section Step

variable {slots : List (Slot α)} {slot : Slot α} {filling filling' : Filling α} {key : String}
  {value : Json} {members : List (String × Json)}

/-- A member that no slot knows is passed over. -/
theorem ofMembers_unknown (unknown : slots.find? (·.isFor key) = none) :
    Filling.ofMembers slots filling ((key, value) :: members) =
      Filling.ofMembers slots filling members := by
  simp only [Filling.ofMembers, unknown]

/-- A member that a slot knows is taken where the slot is free and its form takes the value. -/
theorem ofMembers_known_iff (known : slots.find? (·.isFor key) = some slot) :
    Filling.ofMembers slots filling ((key, value) :: members) = .ok filling' ↔
      slot.name ∉ filling.filled ∧ ∃ put, slot.form.ofValue value = .ok put ∧
        Filling.ofMembers slots (filling.fill slot put) members = .ok filling' := by
  simp only [Filling.ofMembers, known, Filling.has]
  by_cases filled : slot.name ∈ filling.filled
  · simp [filled]
  · cases slot.form.ofValue value <;> simp [filled]

theorem fits_cons_other {filled : List String} (different : key ≠ slot.name) :
    slot.Fits filled ((key, value) :: members) ↔ slot.Fits filled members := by
  rw [Slot.Fits, Slot.Fits, membersAt_cons_other different]

theorem fits_cons_here {filled : List String} :
    slot.Fits filled ((slot.name, value) :: members) ↔
      slot.name ∉ filled ∧ (∃ put, slot.form.ofValue value = .ok put) ∧
        membersAt slot.name members = [] := by
  rw [Slot.Fits, membersAt_cons_here]
  constructor
  · rintro (none | ⟨free, v, put, only, gives⟩)
    · cases none
    · obtain ⟨same, alone⟩ := List.cons.inj only
      cases same
      exact ⟨free, ⟨put, gives⟩, alone⟩
  · rintro ⟨free, ⟨put, gives⟩, alone⟩
    exact .inr ⟨free, value, put, by rw [alone], gives⟩

theorem fits_filled_other {filled : List String} (different : key ≠ slot.name) :
    slot.Fits (key :: filled) members ↔ slot.Fits filled members := by
  simp only [Slot.Fits, List.mem_cons, different.symm, false_or]

theorem fits_filled_here {filled : List String} :
    slot.Fits (slot.name :: filled) members ↔ membersAt slot.name members = [] := by
  simp only [Slot.Fits, List.mem_cons_self, not_true_eq_false, false_and, or_false]

/-- A member that a slot knows fits where the slot is free and its form takes the value; the members
behind it find this slot filled, and the others as they were. -/
theorem forall_fits_cons_iff (keyed : Keyed slots) (here : slot ∈ slots) {filled : List String} :
    (∀ s ∈ slots, s.Fits filled ((slot.name, value) :: members)) ↔
      slot.name ∉ filled ∧ (∃ put, slot.form.ofValue value = .ok put) ∧
        ∀ s ∈ slots, s.Fits (slot.name :: filled) members := by
  have others : ∀ s ∈ slots, s ≠ slot → slot.name ≠ s.name := by
    intro s there different same
    exact different (List.inj_on_of_nodup_map keyed.distinct there here same.symm)
  constructor
  · intro fits
    obtain ⟨free, takes, alone⟩ := fits_cons_here.mp (fits slot here)
    refine ⟨free, takes, ?_⟩
    intro s there
    by_cases same : s = slot
    · subst same
      exact fits_filled_here.mpr alone
    · have different := others s there same
      exact (fits_filled_other different).mpr ((fits_cons_other different).mp (fits s there))
  · rintro ⟨free, takes, rest⟩
    intro s there
    by_cases same : s = slot
    · subst same
      exact fits_cons_here.mpr ⟨free, takes, fits_filled_here.mp (rest s there)⟩
    · have different := others s there same
      exact (fits_cons_other different).mpr ((fits_filled_other different).mp (rest s there))

end Step

/-! ### All members -/

section Run

variable {slots : List (Slot α)} (keyed : Keyed slots) {members : List (String × Json)}

include keyed

/-- The members are taken exactly when they leave each slot alone or fill it once. -/
theorem exists_ofMembers_iff {filling : Filling α} :
    (∃ filling', Filling.ofMembers slots filling members = .ok filling') ↔
      ∀ slot ∈ slots, slot.Fits filling.filled members := by
  induction members generalizing filling with
  | nil => exact ⟨fun _ _ _ => .inl rfl, fun _ => ⟨filling, rfl⟩⟩
  | cons m members ih =>
      obtain ⟨key, value⟩ := m
      cases found : slots.find? (·.isFor key) with
      | none =>
          rw [ofMembers_unknown found, ih]
          refine forall₂_congr fun slot here => (fits_cons_other ?_).symm
          rintro rfl
          rw [keyed.find?_eq_some_iff.mpr ⟨here, rfl⟩] at found
          cases found
      | some slot =>
          obtain ⟨here, rfl⟩ := keyed.find?_eq_some_iff.mp found
          rw [forall_fits_cons_iff keyed here]
          simp only [ofMembers_known_iff found]
          constructor
          · rintro ⟨filling', free, put, gives, taken⟩
            exact ⟨free, ⟨put, gives⟩, ih.mp ⟨filling', taken⟩⟩
          · rintro ⟨free, ⟨put, gives⟩, fits⟩
            have rest : ∀ s ∈ slots, s.Fits (filling.fill slot put).filled members := fits
            obtain ⟨filling', taken⟩ := ih.mpr rest
            exact ⟨filling', free, put, gives, taken⟩

/-- What becomes of a part of a record that one slot puts and the others leave as it is: it stays
where the members leave this slot alone, and is the value that fills it otherwise. -/
theorem ends_of_ofMembers {key : String} {required : Bool} {form : Form γ} {put : γ → α → α}
    {get : α → γ} (here : .of key [] required form put ∈ slots)
    (got : ∀ x record, get (put x record) = x)
    (others : ∀ slot ∈ slots, slot.name ≠ key → ∀ value change,
      slot.form.ofValue value = .ok change → ∀ record, get (change record) = get record)
    {filling filling' : Filling α}
    (taken : Filling.ofMembers slots filling members = .ok filling') :
    (membersAt key members = [] ∧ get filling'.record = get filling.record) ∨
      key ∉ filling.filled ∧ ∃ value x, membersAt key members = [(key, value)] ∧
        form.ofValue value = .ok x ∧ get filling'.record = x := by
  induction members generalizing filling with
  | nil =>
      cases taken
      exact .inl ⟨rfl, rfl⟩
  | cons m members ih =>
      obtain ⟨name, value⟩ := m
      cases found : slots.find? (·.isFor name) with
      | none =>
          rw [ofMembers_unknown found] at taken
          have different : name ≠ key := by
            rintro rfl
            have known : slots.find? (·.isFor name) = some _ :=
              keyed.find?_eq_some_iff.mpr ⟨here, rfl⟩
            rw [found] at known
            cases known
          rw [membersAt_cons_other different]
          exact ih taken
      | some slot =>
          obtain ⟨there, rfl⟩ := keyed.find?_eq_some_iff.mp found
          obtain ⟨free, change, gives, taken⟩ := (ofMembers_known_iff found).mp taken
          by_cases same : slot.name = key
          · have slot_eq := List.inj_on_of_nodup_map keyed.distinct there here same
            subst slot_eq
            obtain ⟨x, takes, rfl⟩ := map_eq_ok_iff.mp gives
            rcases ih taken with ⟨alone, kept⟩ | ⟨filled, -⟩
            · refine .inr ⟨free, value, x, ?_, takes, kept.trans (got x _)⟩
              exact membersAt_cons_here.trans (by rw [alone])
            · exact absurd List.mem_cons_self filled
          · rw [membersAt_cons_other same]
            have kept : get (filling.fill slot change).record = get filling.record :=
              others slot there same value change gives filling.record
            rcases ih taken with ⟨alone, ends⟩ | ⟨filled, once⟩
            · exact .inl ⟨alone, ends.trans kept⟩
            · exact .inr ⟨fun earlier => filled (List.mem_cons_of_mem _ earlier), once⟩

end Run

end Form

end GivenNames.Json
