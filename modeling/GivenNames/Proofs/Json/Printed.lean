import GivenNames.Proofs.Json.Written

/-!
Printed values read back.

A value is plain when text carries it without loss: it holds no floating-point number, its integers
are words of 64 bits, and its nesting is bounded. Main statement: the printed form of a plain value
is read as that value, with the members of its objects in key order (`parse_text`).
-/

namespace GivenNames.Json

/-- Values without floating-point numbers whose integers are words, with at most so many arrays and
objects opened around any part of them. -/
inductive Plain : Nat → Json → Prop
  | null {n : Nat} : Plain n .null
  | bool {n : Nat} (x : Bool) : Plain n (.bool x)
  | int {n : Nat} {k : Int} (word : IsWord k) : Plain n (.int k)
  | string {n : Nat} (s : String) : Plain n (.string s)
  | array {n : Nat} {vs : List Json} (items : ∀ v ∈ vs, Plain n v) : Plain (n + 1) (.array vs)
  | object {n : Nat} {ms : List (String × Json)} (members : ∀ m ∈ ms, Plain n m.2) :
      Plain (n + 1) (.object ms)

/-! ### Printed lists -/

variable {n : Nat}

theorem written_moreItemChars {vs : List Json} (items : ∀ v ∈ vs, Written n (.value v) v.chars) :
    Written n (.items false vs) (moreItemChars vs ++ [']']) := by
  induction vs with
  | nil => exact .noItem blank_nil
  | cons v vs ih =>
      have rest := ih fun w member => items w (List.mem_cons_of_mem _ member)
      have whole := Written.item (.next blank_nil blank_nil) (items v List.mem_cons_self) rest
      simpa [moreItemChars] using whole

theorem written_itemChars {vs : List Json} (items : ∀ v ∈ vs, Written n (.value v) v.chars) :
    Written n (.items true vs) (itemChars vs ++ [']']) := by
  cases vs with
  | nil => exact .noItem blank_nil
  | cons v vs =>
      have rest := written_moreItemChars fun w member => items w (List.mem_cons_of_mem _ member)
      have whole := Written.item (.first blank_nil) (items v List.mem_cons_self) rest
      simpa [itemChars] using whole

theorem written_moreMemberChars {ms : List (String × Json)}
    (members : ∀ m ∈ ms, Written n (.value m.2) m.2.chars) :
    Written n (.members false ms) (moreMemberChars ms ++ ['\x7d']) := by
  induction ms with
  | nil => exact .noMember blank_nil
  | cons m ms ih =>
      have rest := ih fun w member => members w (List.mem_cons_of_mem _ member)
      have whole : Written n (.members false (m :: ms)) _ := .member (.next blank_nil blank_nil)
        blank_nil blank_nil (members m List.mem_cons_self) rest
      simpa [moreMemberChars] using whole

theorem written_memberChars {ms : List (String × Json)}
    (members : ∀ m ∈ ms, Written n (.value m.2) m.2.chars) :
    Written n (.members true ms) (memberChars ms ++ ['\x7d']) := by
  cases ms with
  | nil => exact .noMember blank_nil
  | cons m ms =>
      have rest := written_moreMemberChars fun w member =>
        members w (List.mem_cons_of_mem _ member)
      have whole : Written n (.members true (m :: ms)) _ := .member (.first blank_nil)
        blank_nil blank_nil (members m List.mem_cons_self) rest
      simpa [memberChars] using whole

/-! ### Printed values -/

theorem Plain.written {v : Json} (plain : Plain n v) : Written n (.value v) v.chars := by
  induction plain with
  | null => exact .null
  | bool x => exact .bool x
  | int word => exact .int word
  | string s => exact .string s
  | array _ ih => exact .array (written_itemChars ih)
  | object _ ih => exact .object (written_memberChars ih)

/-- The printed form of a plain value is one way to write it. -/
theorem spells_text {v : Json} (plain : Plain maxNesting v) : Spells v.text v :=
  ⟨[], _, [], blank_nil, plain.written, blank_nil, by simp [text]⟩

/-- The printed form of a plain value reads back as that value, its members in key order. -/
theorem parse_text {v : Json} (plain : Plain maxNesting v) : parse v.text = .ok v.sorted := by
  simpa [text] using parse_of_written blank_nil plain.written blank_nil

end GivenNames.Json
