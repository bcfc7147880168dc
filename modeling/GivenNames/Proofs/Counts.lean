import GivenNames.Proofs.Answers
import GivenNames.Proofs.Json.Printed
import GivenNames.Proofs.Ranking

/-!
The counts of an answer are words.

An addition that wraps around leaves a word in every tally, whatever the registry holds
(`sumWith_wrappingAdd_lt`), and a key has no more districts than there are registrations
(`getD_get?_widest_le`). Main statements: every count of every answer is a word (`counts_lt`), so
answers are written as plain values (`plain_value`).
-/

namespace GivenNames

open Population

/-! ### Tallies of words -/

theorem View.wrappingAdd_lt (a b : Nat) : View.wrappingAdd a b < UInt64.size :=
  Nat.mod_lt _ (by decide)

namespace Tally

open Std

variable {K ρ : Type} [Ord K] [LawfulEqOrd K] [TransOrd K] [DecidableEq K] {key : ρ → K}
  {weight : ρ → Nat} {rows : List ρ}

theorem sumWith_wrappingAdd_lt {e : K × Nat}
    (member : e ∈ (sumWith View.wrappingAdd key weight rows).entries) : e.2 < UInt64.size := by
  have value := (ordered_sumWith key weight View.wrappingAdd rows).mem_entries.mp member
  obtain ⟨r, _, before, last⟩ := exists_step_of_get?_gather key
    (fun r sum => View.wrappingAdd (sum.getD 0) (weight r)) value
  rw [last]
  exact View.wrappingAdd_lt _ _

theorem getD_get?_sumWith_wrappingAdd_lt (k : K) :
    ((sumWith View.wrappingAdd key weight rows).get? k).getD 0 < UInt64.size := by
  cases value : (sumWith View.wrappingAdd key weight rows).get? k with
  | none => decide
  | some sum =>
      have ordered := ordered_sumWith key weight View.wrappingAdd rows
      exact sumWith_wrappingAdd_lt (ordered.mem_entries.mpr value)

theorem values_sumWith_wrappingAdd_lt {v : Nat}
    (member : v ∈ (sumWith View.wrappingAdd key weight rows).values) : v < UInt64.size := by
  obtain ⟨e, entry, rfl⟩ := List.mem_map.mp member
  exact sumWith_wrappingAdd_lt entry

end Tally

/-! ### Districts -/

namespace View

theorem getD_get?_districtCounts_le (rows : List Registration) (key : NameKey) :
    ((Stage.districtCounts rows).get? key).getD 0 ≤ rows.length := by
  rw [Stage.get?_districtCounts]
  split
  · calc (districts (ofKey key rows)).card
        ≤ ((ofKey key rows).map Registration.district).length := List.toFinset_card_le _
      _ = (ofKey key rows).length := List.length_map _
      _ ≤ rows.length := List.length_filter_le _ _
  · exact Nat.zero_le _

/-- No key is joined with more districts than there are registrations. -/
theorem getD_get?_widest_le (rows narrowed : List Registration) (key : NameKey) :
    ((widest rows narrowed).get? key).getD 0 ≤ rows.length := by
  cases greatest : (widest rows narrowed).get? key with
  | none => exact Nat.zero_le _
  | some districts =>
      rw [widest, Tally.get?_largest] at greatest
      obtain ⟨p, kept, rfl⟩ := List.mem_map.mp (List.max?_mem greatest)
      obtain ⟨joined, row, rfl⟩ := List.mem_map.mp (List.mem_filter.mp kept).1
      obtain ⟨r, _, rfl⟩ := List.mem_map.mp row
      exact getD_get?_districtCounts_le rows r.key

end View

/-! ### Answers -/

/-- Every count that an answer holds. -/
def Answer.counts : Answer → List Nat
  | .table rows => rows.flatMap fun r => [r.count, r.districtCount, r.countTotal]
  | .trend t => t.yearlyCounts.values
  | .scatter points => points.flatMap fun p => [p.countDistrict, p.countTotal]
  | .map m => m.maxCount :: m.districtCounts.values

theorem View.table_counts_lt {registry : Registry}
    (held : registry.registrations.length < UInt64.size) {filters : Filters} {r : RankedName}
    (member : r ∈ View.candidatesWith View.wrappingAdd registry filters) :
    r.count < UInt64.size ∧ r.districtCount < UInt64.size ∧ r.countTotal < UInt64.size := by
  obtain ⟨⟨⟨key, count⟩, total⟩, joined, rfl⟩ := List.mem_map.mp member
  obtain ⟨e, entry, same⟩ := List.mem_map.mp joined
  obtain ⟨rfl, rfl⟩ := Prod.mk.inj same
  have window : (Stage.years filters.years registry.registrations).length ≤
      registry.registrations.length := by
    rw [Stage.years_eq_filter]
    exact List.length_filter_le _ _
  exact ⟨Tally.sumWith_wrappingAdd_lt entry,
    (View.getD_get?_widest_le _ _ key).trans_lt (window.trans_lt held),
    Tally.getD_get?_sumWith_wrappingAdd_lt key⟩

theorem View.scatter_counts_lt {registry : Registry} {filters : Filters} {p : RarityPoint}
    (member : p ∈ View.scatterWith View.wrappingAdd registry filters) :
    p.countDistrict < UInt64.size ∧ p.countTotal < UInt64.size := by
  obtain ⟨⟨key, count⟩, joined, rfl⟩ := List.mem_map.mp member
  obtain ⟨k, _, same⟩ := List.mem_map.mp joined
  obtain ⟨rfl, rfl⟩ := Prod.mk.inj same
  exact ⟨Tally.getD_get?_sumWith_wrappingAdd_lt _, Tally.getD_get?_sumWith_wrappingAdd_lt _⟩

theorem foldl_max_lt {limit : Nat} {values : List Nat} (below : ∀ v ∈ values, v < limit)
    {greatest : Nat} (start : greatest < limit) : values.foldl max greatest < limit := by
  induction values generalizing greatest with
  | nil => exact start
  | cons v values ih =>
      exact ih (fun w member => below w (List.mem_cons_of_mem _ member))
        (max_lt start (below v List.mem_cons_self))

/-- Every count of an answer is a word, for any registry that a machine can hold. -/
theorem Request.counts_lt {registry : Registry}
    (held : registry.registrations.length < UInt64.size) (request : Request) :
    ∀ c ∈ (request.answer registry).counts, c < UInt64.size := by
  cases request with
  | table filters =>
      intro c member
      obtain ⟨r, shown, member⟩ := List.mem_flatMap.mp member
      have candidate := View.mem_candidatesWith_of_mem_tableWith View.wrappingAdd filters shown
      obtain ⟨count, districts, total⟩ := View.table_counts_lt held candidate
      simp only [List.mem_cons, List.not_mem_nil, or_false] at member
      rcases member with rfl | rfl | rfl
      · exact count
      · exact districts
      · exact total
  | trend name years district =>
      exact fun c member => Tally.values_sumWith_wrappingAdd_lt member
  | scatter filters =>
      intro c member
      obtain ⟨p, shown, member⟩ := List.mem_flatMap.mp member
      obtain ⟨inDistrict, total⟩ := View.scatter_counts_lt shown
      simp only [List.mem_cons, List.not_mem_nil, or_false] at member
      rcases member with rfl | rfl
      · exact inDistrict
      · exact total
  | map name years =>
      intro c member
      rcases List.mem_cons.mp member with rfl | member
      · exact foldl_max_lt (fun v member => Tally.values_sumWith_wrappingAdd_lt member) (by decide)
      · exact Tally.values_sumWith_wrappingAdd_lt member

/-! ### Plain values -/

theorem isWord_int32 (k : Int32) : Json.IsWord k.toInt := by
  have := k.le_toInt
  have := k.toInt_lt
  constructor <;> omega

theorem isWord_int64 (k : Int64) : Json.IsWord k.toInt := by
  have := k.le_toInt
  have := k.toInt_lt
  constructor <;> omega

theorem isWord_natCast {n : Nat} (small : n < UInt64.size) : Json.IsWord n := by
  simp only [UInt64.size] at small
  constructor <;> omega

theorem plain_gender (n : Nat) (g : Gender) : Json.Plain n g.toJson :=
  .int (isWord_natCast (g.code.toNat_lt.trans (by decide)))

/-- Counts under names of their own are plain members. -/
theorem plain_counts {K : Type} {entries : List (K × Nat)} (word : K → String)
    (words : ∀ e ∈ entries, e.2 < UInt64.size) (n : Nat) :
    Json.Plain (n + 1) (.object (entries.map fun e => (word e.1, .int e.2))) := by
  refine .object fun m member => ?_
  obtain ⟨e, entry, rfl⟩ := List.mem_map.mp member
  exact .int (isWord_natCast (words e entry))

theorem RankedName.plain_value {r : RankedName}
    (words : ∀ c ∈ [r.count, r.districtCount, r.countTotal], c < UInt64.size) (n : Nat) :
    Json.Plain (n + 1) r.value := by
  refine .object ?_
  simp only [List.forall_mem_cons] at words ⊢
  obtain ⟨count, districts, total, _⟩ := words
  exact ⟨.string _, plain_gender _ _, .int (isWord_natCast count), .int (isWord_natCast districts),
    .int (isWord_natCast total), by simp⟩

theorem RarityPoint.plain_value {p : RarityPoint}
    (words : ∀ c ∈ [p.countDistrict, p.countTotal], c < UInt64.size) (n : Nat) :
    Json.Plain (n + 1) p.value := by
  refine .object ?_
  simp only [List.forall_mem_cons] at words ⊢
  obtain ⟨inDistrict, total, _⟩ := words
  exact ⟨.string _, plain_gender _ _, .int (isWord_natCast inDistrict),
    .int (isWord_natCast total), by simp⟩

/-- An answer whose counts are words is written without loss. -/
theorem Answer.plain_value {a : Answer} (words : ∀ c ∈ a.counts, c < UInt64.size) (n : Nat) :
    Json.Plain (n + 2) a.value := by
  cases a with
  | table rows =>
      refine .array fun v member => ?_
      obtain ⟨r, shown, rfl⟩ := List.mem_map.mp member
      exact r.plain_value (fun c within => words c (List.mem_flatMap.mpr ⟨r, shown, within⟩)) n
  | trend t =>
      have counts := plain_counts (fun year : Int32 => Integer.text year.toInt)
        (fun e member => words e.2 (List.mem_map.mpr ⟨e, member, rfl⟩)) n
      refine .object ?_
      simp only [List.forall_mem_cons]
      exact ⟨.string _, counts, by simp⟩
  | scatter points =>
      refine .array fun v member => ?_
      obtain ⟨p, shown, rfl⟩ := List.mem_map.mp member
      exact p.plain_value (fun c within => words c (List.mem_flatMap.mpr ⟨p, shown, within⟩)) n
  | map m =>
      have counts := plain_counts (fun district : String => district) (fun e member =>
        words e.2 (List.mem_cons_of_mem _ (List.mem_map.mpr ⟨e, member, rfl⟩))) n
      have greatest := isWord_natCast (words _ List.mem_cons_self)
      refine .object ?_
      simp only [List.forall_mem_cons]
      exact ⟨.string _, counts, .int greatest, by simp⟩

end GivenNames
