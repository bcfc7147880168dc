import GivenNames.Proofs.Stages

/-!
The law of the spread stage.

The stage counts the districts of each key among the very rows that it then filters. It keeps or
drops the rows of a key as a whole (`ofKey_spread`), so a key that is kept has as many districts as
before. Two runs one after the other therefore judge the same numbers, and keep what one run keeps
with the bounds of both (`spread_spread`). Main statement: `spread_eq_admitted`.
-/

namespace GivenNames

open Population

/-! ### Bounds together -/

theorem toInt_max_le_iff {k l : Int64} {n : Int} :
    (max k l).toInt ≤ n ↔ k.toInt ≤ n ∧ l.toInt ≤ n := by
  change (if k ≤ l then l else k).toInt ≤ n ↔ _
  split
  · rename_i less
    rw [Int64.le_iff_toInt_le] at less
    omega
  · rename_i greater
    rw [Int64.le_iff_toInt_le] at greater
    omega

theorem le_toInt_min_iff {k l : Int64} {n : Int} :
    n ≤ (min k l).toInt ↔ n ≤ k.toInt ∧ n ≤ l.toInt := by
  change n ≤ (if k ≤ l then k else l).toInt ↔ _
  split
  · rename_i less
    rw [Int64.le_iff_toInt_le] at less
    omega
  · rename_i greater
    rw [Int64.le_iff_toInt_le] at greater
    omega

theorem forall_mem_merge_max {k l : Option Int64} {n : Int} :
    (∀ least ∈ k.merge max l, least.toInt ≤ n) ↔
      (∀ least ∈ k, least.toInt ≤ n) ∧ ∀ least ∈ l, least.toInt ≤ n := by
  cases k <;> cases l <;> simp [Option.merge, toInt_max_le_iff]

theorem forall_mem_merge_min {k l : Option Int64} {n : Int} :
    (∀ most ∈ k.merge min l, n ≤ most.toInt) ↔
      (∀ most ∈ k, n ≤ most.toInt) ∧ ∀ most ∈ l, n ≤ most.toInt := by
  cases k <;> cases l <;> simp [Option.merge, le_toInt_min_iff]

namespace SpreadBounds

/-- The bounds that two bounds amount to: the greater minimum and the lesser maximum. -/
def both (b c : Option SpreadBounds) : Option SpreadBounds :=
  b.merge (fun b c => ⟨b.min.merge Max.max c.min, b.max.merge Min.min c.max⟩) c

theorem admits_both_iff {b c : Option SpreadBounds} {districts : Nat} :
    Admits (both b c) districts ↔ Admits b districts ∧ Admits c districts := by
  cases b with
  | none => cases c <;> simp [both, Admits, Option.merge]
  | some b =>
      cases c with
      | none => simp [both, Admits, Option.merge]
      | some c =>
          change Admits (some ⟨b.min.merge Max.max c.min, b.max.merge Min.min c.max⟩) _ ↔ _
          simp only [Admits, Option.mem_some_iff, forall_eq', forall_mem_merge_max,
            forall_mem_merge_min]
          exact and_and_and_comm

end SpreadBounds

/-! ### Keys as a whole -/

namespace Stage

variable (bounds : Option SpreadBounds) (rows : List Registration)

/-- A key that the bounds admit keeps its rows, and any other key loses all of them. -/
theorem ofKey_spread (key : NameKey) :
    ofKey key (spread bounds rows) =
      if SpreadBounds.Admits bounds (districts (ofKey key rows)).card then ofKey key rows
      else [] := by
  rw [spread_eq_filter, ofKey_filter_key fun key =>
    decide (SpreadBounds.Admits bounds (districts (ofKey key rows)).card)]
  simp only [decide_eq_true_eq]

theorem mem_map_key_spread {key : NameKey} :
    key ∈ (spread bounds rows).map Registration.key ↔
      key ∈ rows.map Registration.key ∧
        SpreadBounds.Admits bounds (districts (ofKey key rows)).card := by
  rw [Tally.mem_map_iff_filter_ne_nil, Tally.mem_map_iff_filter_ne_nil]
  change ofKey key (spread bounds rows) ≠ [] ↔ ofKey key rows ≠ [] ∧ _
  rw [ofKey_spread]
  split <;> simp_all

/-- The keys that are left have the districts that they had. -/
theorem entries_districtCounts_spread :
    (districtCounts (spread bounds rows)).entries =
      (districtCounts rows).entries.filter fun e =>
        e.1 ∈ (spread bounds rows).map Registration.key := by
  have restricted := Tally.entries_distinctBy_filter Registration.key Registration.district
    (fun key => SpreadBounds.Admits bounds (districts (ofKey key rows)).card) rows
  rw [← spread_eq_filter] at restricted
  apply restricted.trans
  apply List.filter_congr
  intro e entry
  have present : e.1 ∈ rows.map Registration.key :=
    (Tally.mem_keys_distinctBy Registration.key Registration.district).mp
      (List.mem_map.mpr ⟨e, entry, rfl⟩)
  simp only [mem_map_key_spread, present, true_and]

/-- A second run judges the numbers that the first one judged. -/
theorem spread_spread (other : Option SpreadBounds) :
    spread other (spread bounds rows) = spread (SpreadBounds.both bounds other) rows := by
  rw [spread_eq_filter other, spread_eq_filter (SpreadBounds.both bounds other)]
  simp only [ofKey_spread, SpreadBounds.admits_both_iff, Bool.decide_and]
  rw [spread_eq_filter, List.filter_filter]
  apply List.filter_congr
  intro r _
  by_cases admitted : SpreadBounds.Admits bounds (districts (ofKey r.key rows)).card
  · simp [admitted]
  · simp [admitted]

/-- The stage keeps, in their order and as often as they occur, the rows of exactly the keys that
occur in a number of districts within the bounds, as integers, and all rows of such a key. Their
numbers of districts are those they had. Two runs keep what one run keeps with the greater minimum
and the lesser maximum, so a run repeated keeps what it kept, and two runs may be interchanged. -/
theorem spread_eq_admitted :
    spread bounds rows =
      rows.filter (fun r => SpreadBounds.Admits bounds (districts (ofKey r.key rows)).card) ∧
    (∀ key, ofKey key (spread bounds rows) =
      if SpreadBounds.Admits bounds (districts (ofKey key rows)).card then ofKey key rows
      else []) ∧
    (districtCounts (spread bounds rows)).entries =
      (districtCounts rows).entries.filter (fun e =>
        e.1 ∈ (spread bounds rows).map Registration.key) ∧
    (∀ other, spread other (spread bounds rows) = spread (SpreadBounds.both bounds other) rows) ∧
    spread bounds (spread bounds rows) = spread bounds rows ∧
    ∀ other, spread other (spread bounds rows) = spread bounds (spread other rows) := by
  refine ⟨spread_eq_filter bounds rows, ofKey_spread bounds rows,
    entries_districtCounts_spread bounds rows, spread_spread bounds rows, ?_, ?_⟩
  · rw [spread_spread, spread_eq_filter, spread_eq_filter bounds]
    simp only [SpreadBounds.admits_both_iff, and_self]
  · intro other
    rw [spread_spread, spread_spread, spread_eq_filter, spread_eq_filter]
    simp only [SpreadBounds.admits_both_iff, and_comm]

end Stage

end GivenNames
