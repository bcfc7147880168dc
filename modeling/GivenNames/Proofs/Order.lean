import GivenNames.Registration
import Mathlib.Order.Defs.LinearOrder

/-!
The orders that tallies are kept in are lawful: genders by code, keys by spelling and then by
gender, compound keys by their first part and then by their second. Main statement: the order of
keys is the order of their spellings, code point by code point, and then of the codes of their
genders (`NameKey.compare_eq_lt`).
-/

namespace GivenNames

open Std

namespace Gender

theorem code_injective : Function.Injective code := by
  intro a b same
  cases a <;> cases b <;> first | rfl | exact absurd same (by decide)

instance : TransOrd Gender :=
  inferInstanceAs (TransCmp (compareOn code))

instance : LawfulEqOrd Gender where
  eq_of_compare {a b} same :=
    code_injective (LawfulEqOrd.eq_of_compare (show compare a.code b.code = .eq from same))

theorem compare_eq_lt {a b : Gender} : compare a b = .lt ↔ a.code < b.code := by
  cases a <;> cases b <;> decide

end Gender

namespace NameKey

instance : TransOrd NameKey :=
  inferInstanceAs (TransCmp (compareLex (compareOn name) (compareOn gender)))

instance : LawfulEqOrd NameKey where
  eq_of_compare {a b} same := by
    have parts : (compare a.name b.name).then (compare a.gender b.gender) = .eq := same
    obtain ⟨names, genders⟩ := Ordering.then_eq_eq.mp parts
    cases a
    cases b
    cases LawfulEqOrd.eq_of_compare names
    cases LawfulEqOrd.eq_of_compare genders
    rfl

/-- One key stands before another: by its spelling, and with one spelling by its gender. -/
def Before (a b : NameKey) : Prop :=
  a.name < b.name ∨ a.name = b.name ∧ a.gender.code < b.gender.code

instance (a b : NameKey) : Decidable (Before a b) :=
  inferInstanceAs (Decidable (_ ∨ _))

/-- The order of keys goes by spelling, code point by code point, and then by gender. -/
theorem compare_eq_lt {a b : NameKey} : compare a b = .lt ↔ a.Before b := by
  have names : compare a.name b.name = .lt ↔ a.name < b.name := compareOfLessAndEq_eq_lt
  have unfolded : compare a b = (compare a.name b.name).then (compare a.gender b.gender) := rfl
  rw [unfolded, Ordering.then_eq_lt, names, LawfulEqOrd.compare_eq_iff_eq, Gender.compare_eq_lt,
    Before]

end NameKey

namespace Compound

variable {A B : Type} [Ord A] [Ord B]

instance [TransOrd A] [TransOrd B] : TransOrd (Compound A B) :=
  inferInstanceAs (TransCmp (compareLex (compareOn first) (compareOn second)))

instance [TransOrd A] [TransOrd B] [LawfulEqOrd A] [LawfulEqOrd B] :
    LawfulEqOrd (Compound A B) where
  compare_self := ReflOrd.compare_self
  eq_of_compare {a b} same := by
    have parts : (compare a.first b.first).then (compare a.second b.second) = .eq := same
    obtain ⟨firsts, seconds⟩ := Ordering.then_eq_eq.mp parts
    cases a
    cases b
    cases LawfulEqOrd.eq_of_compare firsts
    cases LawfulEqOrd.eq_of_compare seconds
    rfl

end Compound

end GivenNames
