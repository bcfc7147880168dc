import GivenNames.Tally
import Mathlib.Data.List.Nodup
import Mathlib.Data.List.Perm.Basic

/-!
Entries in key order.

Altering a value keeps the keys strictly increasing (`increasing_alterAt`), sets the value at its
own key (`valueAt?_alterAt_self`) and leaves every other one (`valueAt?_alterAt_of_ne`). Hence
entries in order are fixed by their values (`Increasing.ext`).
-/

namespace GivenNames.Tally

open Std

variable {K V : Type} [Ord K]

/-- The keys of the entries increase strictly. -/
def Increasing (entries : List (K × V)) : Prop :=
  entries.Pairwise fun a b => compare a.1 b.1 = .lt

theorem Increasing.filter {entries : List (K × V)} (increasing : Increasing entries)
    (p : K × V → Bool) : Increasing (entries.filter p) :=
  List.Pairwise.filter p increasing

theorem valueAt?_eq_none_of_lt {k : K} {entries : List (K × V)}
    (above : ∀ e ∈ entries, compare k e.1 = .lt) : valueAt? k entries = none := by
  induction entries with
  | nil => rfl
  | cons head rest ih =>
      have less := above head List.mem_cons_self
      simp only [valueAt?, less]
      exact ih fun e member => above e (List.mem_cons_of_mem _ member)

variable [LawfulEqOrd K]

theorem Increasing.nodup_keys {entries : List (K × V)} (increasing : Increasing entries) :
    (entries.map Prod.fst).Nodup := by
  refine List.pairwise_map.mpr (increasing.imp fun {a b} less same => ?_)
  rw [LawfulEqOrd.compare_eq_iff_eq.mpr same] at less
  cases less

theorem mem_alterAt {k : K} {f : Option V → V} {e : K × V} {entries : List (K × V)}
    (member : e ∈ alterAt k f entries) : e.1 = k ∨ e ∈ entries := by
  induction entries with
  | nil =>
      cases List.mem_singleton.mp member
      exact .inl rfl
  | cons head rest ih =>
      obtain ⟨k', v⟩ := head
      unfold alterAt at member
      split at member
      · rcases List.mem_cons.mp member with rfl | later
        · exact .inl rfl
        · exact .inr later
      · rename_i same
        rcases List.mem_cons.mp member with rfl | later
        · exact .inl (LawfulEqOrd.eq_of_compare same).symm
        · exact .inr (List.mem_cons_of_mem _ later)
      · rcases List.mem_cons.mp member with rfl | later
        · exact .inr List.mem_cons_self
        · exact (ih later).imp_right (List.mem_cons_of_mem _)

/-- Altering the value at a new key puts one entry among the others. -/
theorem alterAt_perm {k : K} {f : Option V → V} {entries : List (K × V)}
    (new : k ∉ entries.map Prod.fst) : (alterAt k f entries).Perm ((k, f none) :: entries) := by
  induction entries with
  | nil => exact .refl _
  | cons head rest ih =>
      obtain ⟨k', v⟩ := head
      rw [List.map_cons, List.mem_cons, not_or] at new
      obtain ⟨other, later⟩ := new
      cases order : compare k k' with
      | lt => simp [alterAt, order]
      | eq => exact absurd (LawfulEqOrd.eq_of_compare order) other
      | gt =>
          simp only [alterAt, order]
          exact ((ih later).cons (k', v)).trans (.swap _ _ _)

/-- Entries kept by their keys have the values they had. -/
theorem valueAt?_filter_key (p : K → Bool) (entries : List (K × V)) (k : K) :
    valueAt? k (entries.filter fun e => p e.1) = if p k then valueAt? k entries else none := by
  induction entries with
  | nil => simp [valueAt?]
  | cons head rest ih =>
      obtain ⟨k', v⟩ := head
      by_cases same : k = k'
      · subst same
        by_cases kept : p k
        · simp [kept, valueAt?]
        · simpa [kept, valueAt?] using ih
      · by_cases kept : p k'
        · simpa [kept, valueAt?, same] using ih
        · simpa [kept, valueAt?, same] using ih

theorem valueAt?_alterAt_of_ne {j k : K} (different : j ≠ k) (f : Option V → V)
    (entries : List (K × V)) : valueAt? j (alterAt k f entries) = valueAt? j entries := by
  induction entries with
  | nil => simp [alterAt, valueAt?, different]
  | cons head rest ih =>
      obtain ⟨k', v⟩ := head
      cases order : compare k k' with
      | lt => simp [alterAt, order, valueAt?, different]
      | eq =>
          cases LawfulEqOrd.eq_of_compare order
          simp [alterAt, valueAt?, different]
      | gt => simp [alterAt, order, valueAt?, ih]

/-- An entry in order is the value at its key, and the other way round. -/
theorem mem_iff_valueAt? {entries : List (K × V)} (increasing : Increasing entries) {k : K}
    {v : V} : (k, v) ∈ entries ↔ valueAt? k entries = some v := by
  induction entries with
  | nil => simp [valueAt?]
  | cons head rest ih =>
      obtain ⟨k', v'⟩ := head
      obtain ⟨above, inner⟩ := List.pairwise_cons.mp increasing
      by_cases same : k = k'
      · subst same
        have absent : (k, v) ∉ rest := by
          intro member
          have less := above (k, v) member
          simp at less
        simp [valueAt?, absent, eq_comm]
      · simp [valueAt?, same, ih inner]

variable [TransOrd K]

/-- Altering a value keeps the keys strictly increasing. -/
theorem increasing_alterAt (k : K) (f : Option V → V) {entries : List (K × V)}
    (increasing : Increasing entries) : Increasing (alterAt k f entries) := by
  induction entries with
  | nil => exact List.pairwise_singleton _ _
  | cons head rest ih =>
      obtain ⟨k', v⟩ := head
      obtain ⟨above, inner⟩ := List.pairwise_cons.mp increasing
      unfold alterAt
      split
      · rename_i less
        refine List.pairwise_cons.mpr ⟨fun e member => ?_, increasing⟩
        rcases List.mem_cons.mp member with rfl | later
        · exact less
        · exact TransCmp.lt_trans less (above e later)
      · exact List.pairwise_cons.mpr ⟨above, inner⟩
      · rename_i greater
        refine List.pairwise_cons.mpr ⟨fun e member => ?_, ih inner⟩
        rcases mem_alterAt member with same | later
        · rw [same]
          exact OrientedCmp.gt_iff_lt.mp greater
        · exact above e later

theorem valueAt?_alterAt_self (k : K) (f : Option V → V) {entries : List (K × V)}
    (increasing : Increasing entries) :
    valueAt? k (alterAt k f entries) = some (f (valueAt? k entries)) := by
  induction entries with
  | nil => simp [alterAt, valueAt?]
  | cons head rest ih =>
      obtain ⟨k', v⟩ := head
      obtain ⟨above, inner⟩ := List.pairwise_cons.mp increasing
      cases order : compare k k' with
      | lt =>
          have absent : valueAt? k ((k', v) :: rest) = none := by
            refine valueAt?_eq_none_of_lt fun e member => ?_
            rcases List.mem_cons.mp member with rfl | later
            · exact order
            · exact TransCmp.lt_trans order (above e later)
          rw [absent]
          simp [alterAt, order, valueAt?]
      | eq => simp [alterAt, order, valueAt?]
      | gt => simp [alterAt, order, valueAt?, ih inner]

/-- Entries in order are fixed by their values. -/
theorem Increasing.ext {entries entries' : List (K × V)} (increasing : Increasing entries)
    (increasing' : Increasing entries') (same : ∀ k, valueAt? k entries = valueAt? k entries') :
    entries = entries' := by
  have perm : entries.Perm entries' := by
    refine (List.perm_ext_iff_of_nodup ?_ ?_).mpr fun e => ?_
    · exact .of_map _ increasing.nodup_keys
    · exact .of_map _ increasing'.nodup_keys
    · rw [mem_iff_valueAt? increasing, mem_iff_valueAt? increasing', same]
  refine perm.eq_of_pairwise (fun a b _ _ less greater => ?_) increasing increasing'
  rw [OrientedCmp.gt_iff_lt.mpr greater] at less
  cases less

end GivenNames.Tally
