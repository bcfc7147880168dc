import GivenNames.Proofs.Narrowing

/-!
The ranked table.

The table sorts rows that stand in key order by their counts alone. A stable sort leaves rows of one
count in the order in which they stood (`filter_mergeSort`), so ties go to the earlier key. Main
statement: the table shows the first eight survivors by count, then by key, each with its exact
counts (`tableWith_eq_ranking`).
-/

namespace GivenNames

open Population

/-! ### Stable sorting -/

section Sorting

variable {α : Type} {le : α → α → Bool} (trans : ∀ a b c, le a b → le b c → le a c)
  (total : ∀ a b, le a b || le b a)

include trans total

/-- Sorting leaves the items that rank with a given one in the order in which they stood. -/
theorem filter_mergeSort (items : List α) (x : α) :
    (items.mergeSort le).filter (fun y => le x y && le y x) =
      items.filter fun y => le x y && le y x := by
  set peer := fun y => le x y && le y x with peer_def
  have level : (items.filter peer).Pairwise fun a b => le a b := by
    refine List.pairwise_of_forall_mem_list fun a ha b hb => ?_
    have hax := (Bool.and_eq_true_iff.mp (List.mem_filter.mp ha).2).2
    have hxb := (Bool.and_eq_true_iff.mp (List.mem_filter.mp hb).2).1
    exact trans a x b hax hxb
  have kept := (List.sublist_mergeSort trans total level List.filter_sublist).filter peer
  rw [List.filter_filter] at kept
  simp only [Bool.and_self] at kept
  have perm := (List.mergeSort_perm items le).filter peer
  exact (kept.eq_of_length perm.length_eq.symm).symm

/-- Items that stand in the order `R` are sorted by rank, and within a rank by `R`. -/
theorem pairwise_mergeSort_stable {R : α → α → Prop} {items : List α} (ordered : items.Pairwise R) :
    (items.mergeSort le).Pairwise fun a b => le a b ∧ (le b a → R a b) := by
  rw [List.pairwise_iff_forall_sublist]
  intro a b pair
  have sorted : le a b :=
    List.pairwise_iff_forall_sublist.mp (List.pairwise_mergeSort trans total items) pair
  refine ⟨sorted, fun back => ?_⟩
  have reflexive : le a a := by simpa using total a a
  have peers := pair.filter fun y => le a y && le y a
  simp only [List.filter_cons, reflexive, sorted, back, List.filter_nil, Bool.and_self, if_true,
    filter_mergeSort trans total] at peers
  exact List.pairwise_iff_forall_sublist.mp ordered (peers.trans List.filter_sublist)

end Sorting

/-! ### The rows of the table -/

namespace Filters

variable (filters : Filters) (rows : List Registration)

/-- The count of a key in the chosen district. -/
def localCount (key : NameKey) : Nat :=
  weight (within filters.district (ofKey key rows))

/-- The row of a key: its count in the chosen district, the districts in which it occurs nationwide,
and its nationwide count. -/
def rankedName (key : NameKey) : RankedName where
  name := key.name
  gender := key.gender
  count := filters.localCount rows key
  districtCount := (districts (ofKey key rows)).card
  countTotal := weight (ofKey key rows)

/-- One key ranks ahead of another: by its count, and with one count by its place among the keys. -/
def Ahead (a b : NameKey) : Prop :=
  filters.localCount rows b < filters.localCount rows a ∨
    filters.localCount rows a = filters.localCount rows b ∧ a.Before b

end Filters

namespace View

variable (filters : Filters) (rows : List Registration)

/-- The candidates are the survivors in key order, each with its row. -/
theorem candidatesWith_eq_map (registry : Registry) :
    candidatesWith (· + ·) registry filters =
      (survivors filters (filters.population registry.registrations)).map
        (filters.rankedName (filters.population registry.registrations)) := by
  rw [candidatesWith_eq_map_survivorsWith]
  refine List.map_congr_left fun key member => ?_
  rw [rankedNameWith, getD_get?_countsWith, getD_get?_countsWith,
    ofKey_narrowWith_of_survives (mem_survivors.mp member)]
  rfl

/-! ### The order of the table -/

/-- The survivors by their local counts, the greatest first; equal counts keep key order. -/
def ranking : List NameKey :=
  (survivors filters rows).mergeSort fun a b =>
    filters.localCount rows b ≤ filters.localCount rows a

theorem mem_ranking {key : NameKey} : key ∈ ranking filters rows ↔ filters.Survives rows key :=
  List.mem_mergeSort.trans mem_survivors

theorem pairwise_ranking : (ranking filters rows).Pairwise (filters.Ahead rows) := by
  have trans : ∀ a b c, decide (filters.localCount rows b ≤ filters.localCount rows a) →
      decide (filters.localCount rows c ≤ filters.localCount rows b) →
        decide (filters.localCount rows c ≤ filters.localCount rows a) := by
    intro a b c
    simp only [decide_eq_true_eq]
    exact fun ab bc => bc.trans ab
  have total : ∀ a b, decide (filters.localCount rows b ≤ filters.localCount rows a) ||
      decide (filters.localCount rows a ≤ filters.localCount rows b) := by
    intro a b
    simp only [Bool.or_eq_true, decide_eq_true_eq]
    exact Nat.le_total _ _
  refine (pairwise_mergeSort_stable trans total (pairwise_survivors filters rows)).imp ?_
  rintro a b ⟨sorted, tie⟩
  simp only [decide_eq_true_eq] at sorted tie
  rcases Nat.lt_or_eq_of_le sorted with less | same
  · exact .inl less
  · exact .inr ⟨same.symm, tie same.symm.le⟩

/-- Whatever is shown of the survivors: sorted by their local counts, it shows the ranking. -/
theorem mergeSort_map_survivors {α : Type} (shown : NameKey → α) (count : α → Nat)
    (counts : ∀ key, count (shown key) = filters.localCount rows key) :
    ((survivors filters rows).map shown).mergeSort (fun x y => count y ≤ count x) =
      (ranking filters rows).map shown :=
  (List.map_mergeSort fun a _ b _ => by rw [counts, counts]).symm

/-- The table shows the first eight survivors: the greatest local count first, then the key that
stands before the other. Each row has the count in the chosen district, the number of districts
nationwide and the count nationwide. An addition of words is exact while the counts of the registry
add up to a word. -/
theorem tableWith_eq_ranking {plus : Nat → Nat → Nat} (registry : Registry)
    (exact : Tally.ExactUpTo (weight registry.registrations) plus) :
    ∃ ranked : List NameKey,
      (∀ key, key ∈ ranked ↔
        filters.Survives (filters.population registry.registrations) key) ∧
      ranked.Pairwise (filters.Ahead (filters.population registry.registrations)) ∧
      tableWith plus registry filters =
        (ranked.take 8).map (filters.rankedName (filters.population registry.registrations)) := by
  set rows := filters.population registry.registrations
  refine ⟨ranking filters rows, fun key => mem_ranking filters rows,
    pairwise_ranking filters rows, ?_⟩
  have sorted := mergeSort_map_survivors filters rows (filters.rankedName rows) RankedName.count
    fun _ => rfl
  rw [tableWith, candidatesWith_eq exact, candidatesWith_eq_map, cut, sorted, List.map_take]
  rfl

/-- Words of 64 bits rank the sample exactly. One key is left: it occurs in two districts, and four
of its ten registrations are in the chosen one. -/
theorem tableWith_wrappingAdd_sample :
    Tally.ExactUpTo (weight (Registry.ofList sample).registrations) wrappingAdd ∧
    tableWith wrappingAdd (Registry.ofList sample) Filters.sampleFilters =
      [⟨"Alex", .male, 4, 2, 10⟩] ∧
    ∃ ranked : List NameKey,
      (∀ key, key ∈ ranked ↔ Filters.sampleFilters.Survives
        (Filters.sampleFilters.population (Registry.ofList sample).registrations) key) ∧
      ranked.Pairwise (Filters.sampleFilters.Ahead
        (Filters.sampleFilters.population (Registry.ofList sample).registrations)) ∧
      tableWith wrappingAdd (Registry.ofList sample) Filters.sampleFilters =
        (ranked.take 8).map (Filters.sampleFilters.rankedName
          (Filters.sampleFilters.population (Registry.ofList sample).registrations)) :=
  have exact := exactUpTo_wrappingAdd (by decide)
  ⟨exact, by decide +kernel,
    tableWith_eq_ranking Filters.sampleFilters (Registry.ofList sample) exact⟩

end View

end GivenNames
