import GivenNames.Proofs.Joining

/-!
Narrowing with any addition.

The popularity stage judges spellings among the rows of the chosen district behind the spread stage
(`judged`), so narrowing is a filter of those rows (`narrowWith_eq_filter_judged`). Its verdict on a
row is one on the key, which therefore keeps all of its rows in the district or loses them all
(`ofKey_narrowWith_of_mem`). The candidates of the table and the points of the scatter are the keys
that are left, one entry for each (`candidatesWith_eq_map_survivorsWith`,
`scatterWith_eq_map_survivorsWith`). Nothing here asks the counts to fit into words.
-/

namespace GivenNames

open Population

namespace View

variable (plus : Nat → Nat → Nat) (filters : Filters) (rows : List Registration)

/-- The rows that the popularity stage judges: those of the chosen district behind the spread
stage. -/
def judged : List Registration :=
  Stage.district filters.district (Stage.spread filters.spread rows)

theorem judged_eq_filter :
    judged filters rows = (within filters.district rows).filter fun r =>
      SpreadBounds.Admits filters.spread (districts (ofKey r.key rows)).card := by
  rw [judged, Stage.district_eq_within, Stage.spread_eq_filter]
  simp only [within, List.filter_filter, Bool.and_comm]

theorem narrowWith_eq_filter_judged :
    narrowWith plus filters rows = (judged filters rows).filter fun r =>
      Stage.keeps plus filters.popularity (judged filters rows) r.name :=
  Stage.popularityWith_eq_filter plus filters.popularity (judged filters rows)

/-- The verdict of the spread and popularity stages on a key. -/
def leaves (key : NameKey) : Bool :=
  decide (SpreadBounds.Admits filters.spread (districts (ofKey key rows)).card) &&
    Stage.keeps plus filters.popularity (judged filters rows) key.name

theorem narrowWith_eq_filter_leaves :
    narrowWith plus filters rows =
      (within filters.district rows).filter fun r => leaves plus filters rows r.key := by
  simp only [leaves, narrowWith_eq_filter_judged, judged_eq_filter, List.filter_filter,
    Bool.and_comm]
  rfl

theorem narrowWith_subset : narrowWith plus filters rows ⊆ rows := by
  rw [narrowWith_eq_filter_leaves]
  exact (List.filter_sublist.trans List.filter_sublist).subset

/-- A key that is left keeps all of its registrations in the district. -/
theorem ofKey_narrowWith_of_mem {key : NameKey}
    (left : key ∈ (narrowWith plus filters rows).map Registration.key) :
    ofKey key (narrowWith plus filters rows) = within filters.district (ofKey key rows) := by
  have some : ofKey key (narrowWith plus filters rows) ≠ [] :=
    Tally.mem_map_iff_filter_ne_nil.mp left
  rw [narrowWith_eq_filter_leaves, ofKey_filter_key (leaves plus filters rows),
    ofKey_within] at some ⊢
  split at some
  · rename_i kept
    rw [if_pos kept]
  · exact absurd rfl some

/-- The keys that are left, in key order. -/
def survivorsWith : List NameKey :=
  (countsWith plus (narrowWith plus filters rows)).keys

theorem mem_survivorsWith {key : NameKey} :
    key ∈ survivorsWith plus filters rows ↔
      key ∈ (narrowWith plus filters rows).map Registration.key :=
  Tally.mem_keys_gather Registration.key (fun r sum => plus (sum.getD 0) r.weight)

theorem pairwise_survivorsWith : (survivorsWith plus filters rows).Pairwise NameKey.Before := by
  have ordered := Tally.ordered_sumWith Registration.key Registration.weight plus
    (narrowWith plus filters rows)
  exact ordered.pairwise_keys.imp NameKey.compare_eq_lt.mp

/-- The row of a key: its count among the rows that are left, the districts in which it occurs
nationwide, and its nationwide count. -/
def rankedNameWith (key : NameKey) : RankedName where
  name := key.name
  gender := key.gender
  count := ((countsWith plus (narrowWith plus filters rows)).get? key).getD 0
  districtCount := (districts (ofKey key rows)).card
  countTotal := ((countsWith plus rows).get? key).getD 0

/-- The point of a key: its counts in the chosen district and nationwide. -/
def rarityPointWith (key : NameKey) : RarityPoint where
  name := key.name
  gender := key.gender
  countDistrict := ((countsWith plus (within filters.district rows)).get? key).getD 0
  countTotal := ((countsWith plus rows).get? key).getD 0

/-- The join of the rows with the districts nationwide, taken back to one value for each key, is the
number of districts nationwide. -/
theorem getD_get?_widest {narrowed : List Registration} (sub : narrowed ⊆ rows) {key : NameKey}
    (present : key ∈ narrowed.map Registration.key) :
    ((widest rows narrowed).get? key).getD 0 = (districts (ofKey key rows)).card := by
  have nationwide : key ∈ rows.map Registration.key := List.map_subset _ sub present
  have restricted : (widest rows narrowed).get? key = (Stage.districtCounts rows).get? key := by
    rw [Tally.get?, entries_widest sub,
      Tally.valueAt?_filter_key fun key => decide (key ∈ narrowed.map Registration.key)]
    exact if_pos (decide_eq_true present)
  rw [restricted, Stage.get?_districtCounts, if_pos nationwide, Option.getD_some]

/-- The candidates are the keys that are left, each with its row. -/
theorem candidatesWith_eq_map_survivorsWith (registry : Registry) :
    candidatesWith plus registry filters =
      (survivorsWith plus filters (filters.population registry.registrations)).map
        (rankedNameWith plus filters (filters.population registry.registrations)) := by
  unfold candidatesWith
  simp only [Stage.years_eq_population]
  set rows := filters.population registry.registrations
  set counts := countsWith plus (narrowWith plus filters rows) with counts_def
  have ordered : counts.Ordered := Tally.ordered_sumWith _ _ plus _
  have entries : counts.entries = counts.keys.map fun key => (key, (counts.get? key).getD 0) := by
    refine Tally.entries_eq_map_keys fun e member => ?_
    rw [ordered.mem_entries.mp member, Option.getD_some]
  rw [Tally.leftJoin, entries, List.map_map, List.map_map]
  refine List.map_congr_left fun key member => ?_
  -- What is left is part of the window, so the join finds districts for each of its rows.
  have districts := getD_get?_widest rows (narrowWith_subset plus filters rows)
    ((mem_survivorsWith plus filters rows).mp member)
  simp only [Function.comp, rankedNameWith, districts, ← counts_def]

/-- No two candidates have the same key. -/
theorem eq_of_mem_candidatesWith {registry : Registry} {r s : RankedName}
    (listed : r ∈ candidatesWith plus registry filters)
    (listed' : s ∈ candidatesWith plus registry filters) (name : r.name = s.name)
    (gender : r.gender = s.gender) : r = s := by
  rw [candidatesWith_eq_map_survivorsWith] at listed listed'
  obtain ⟨key, _, rfl⟩ := List.mem_map.mp listed
  obtain ⟨key', _, rfl⟩ := List.mem_map.mp listed'
  have same : key = key' := congrArg₂ NameKey.mk name gender
  rw [same]

theorem mem_candidatesWith_of_mem_tableWith {registry : Registry} {r : RankedName}
    (listed : r ∈ tableWith plus registry filters) : r ∈ candidatesWith plus registry filters :=
  List.mem_mergeSort.mp (List.mem_of_mem_take listed)

/-- The points are the keys that are left, each with its counts. -/
theorem scatterWith_eq_map_survivorsWith (registry : Registry) :
    scatterWith plus registry filters =
      (survivorsWith plus filters (filters.population registry.registrations)).map
        (rarityPointWith plus filters (filters.population registry.registrations)) := by
  unfold scatterWith
  simp only [Stage.years_eq_population, Stage.district_eq_within, Tally.leftJoin, List.map_map]
  rfl

end View

end GivenNames
