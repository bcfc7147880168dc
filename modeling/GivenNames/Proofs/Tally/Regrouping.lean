import GivenNames.Proofs.Tally.Gathering

/-!
Sums by one key from sums by another.

The rows of one group can be summed under a second key. The sums of a group under the second key
make up the sum of the group (`get?_sumBy_eq_part`), and the sums of one second key over all groups
make up its sum over all rows (`sumAt_eq_finsum`). A group has a sum exactly when it has rows, so
sums of zero are told from sums that are missing.
-/

namespace GivenNames.Tally

open Std

variable {K L ρ : Type} [DecidableEq K] [Ord L] [LawfulEqOrd L] [TransOrd L] [DecidableEq L]
  (group : ρ → K) (key : ρ → L) (weight : ρ → Nat) (rows : List ρ)

theorem entries_sumBy_eq_nil_iff : (sumBy key weight rows).entries = [] ↔ rows = [] := by
  constructor
  · intro empty
    cases rows with
    | nil => rfl
    | cons r rest =>
        have present : key r ∈ (sumBy key weight (r :: rest)).keys :=
          (mem_keys_sumBy key weight).mpr List.mem_cons_self
        rw [keys, empty] at present
        cases present
  · rintro rfl
    rfl

/-- The sum of a group is what its sums under a second key add up to. -/
theorem get?_sumBy_eq_part [Ord K] [LawfulEqOrd K] [TransOrd K] (k : K) :
    (sumBy group weight rows).get? k =
      if (sumBy key weight (rows.filter fun r => group r = k)).entries = [] then none
      else some (sumBy key weight (rows.filter fun r => group r = k)).values.sum := by
  rw [get?_sumBy, sum_values_sumBy]
  by_cases empty : (rows.filter fun r => group r = k) = []
  · have absent : k ∉ rows.map group := fun present => mem_map_iff_filter_ne_nil.mp present empty
    rw [if_neg absent, if_pos ((entries_sumBy_eq_nil_iff key weight _).mpr empty)]
  · have present : k ∈ rows.map group := mem_map_iff_filter_ne_nil.mpr empty
    have some : (sumBy key weight (rows.filter fun r => group r = k)).entries ≠ [] :=
      fun none => empty ((entries_sumBy_eq_nil_iff key weight _).mp none)
    rw [if_pos present, if_neg some]
    rfl

/-- A second key occurs where it occurs in some group. -/
theorem mem_keys_sumBy_iff_exists_group {l : L} :
    l ∈ (sumBy key weight rows).keys ↔
      ∃ k, l ∈ (sumBy key weight (rows.filter fun r => group r = k)).keys := by
  simp only [mem_keys_sumBy, List.mem_map, List.mem_filter, decide_eq_true_eq]
  constructor
  · rintro ⟨r, member, same⟩
    exact ⟨group r, r, ⟨member, rfl⟩, same⟩
  · rintro ⟨_, r, ⟨member, _⟩, same⟩
    exact ⟨r, member, same⟩

omit [Ord L] [LawfulEqOrd L] [TransOrd L] in
/-- The sum of a second key is made up of its sums in all groups, of which finitely many occur. -/
theorem sumAt_eq_finsum (l : L) :
    sumAt key weight rows l = ∑ᶠ k, sumAt key weight (rows.filter fun r => group r = k) l := by
  -- The group of a row and its second key are chosen in either order.
  have exchanged : ∀ k, sumAt key weight (rows.filter fun r => group r = k) l =
      sumAt group weight (rows.filter fun r => key r = l) k := by
    intro k
    simp only [sumAt, List.filter_filter, Bool.and_comm]
  have support : (Function.support fun k =>
      sumAt group weight (rows.filter fun r => key r = l) k) ⊆ (rows.map group).toFinset := by
    intro k counted
    by_contra absent
    refine counted (?_ : sumAt _ _ _ _ = 0)
    have none : ((rows.filter fun r => key r = l).filter fun r => group r = k) = [] := by
      refine List.filter_eq_nil_iff.mpr fun r member same => absent ?_
      have occurs : k ∈ rows.map group :=
        List.mem_map.mpr ⟨r, List.mem_of_mem_filter member, of_decide_eq_true same⟩
      simpa using occurs
    rw [sumAt, none]
    rfl
  rw [finsum_congr exchanged, finsum_eq_sum_of_support_subset _ support]
  refine (sum_sumAt group weight fun r member => ?_).symm
  exact List.mem_toFinset.mpr (List.mem_map.mpr ⟨r, List.mem_of_mem_filter member, rfl⟩)

end GivenNames.Tally
