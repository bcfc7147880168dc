import GivenNames.Proofs.Population

/-!
Every stage is a filter.

The stages of years and districts look at one registration. The spread stage looks at its key and
at the districts of that key (`spread_eq_filter`). The popularity stage keeps or drops a spelling as
a whole, whatever addition makes its sums (`popularityWith_eq_filter`); with exact addition it looks
at the yearly sums of the keys of that spelling (`popularity_eq_filter`), and the tallies that these
two stages make along the way hold exact sums of the population.
-/

namespace GivenNames

open Population

/-! ### Bounds as integers -/

theorem atLeast_iff {n : Nat} {minimum : Int64} : atLeast n minimum ↔ minimum.toInt ≤ n :=
  decide_eq_true_iff

theorem atMost_iff {n : Nat} {maximum : Int64} : atMost n maximum ↔ (n : Int) ≤ maximum.toInt :=
  decide_eq_true_iff

theorem YearBounds.contains_iff {b : YearBounds} {year : Int32} :
    b.contains year ↔ YearBounds.Admits (some b) year := by
  simp [contains, Admits, Int32.le_iff_toInt_le, Option.all_eq_true]

theorem SpreadBounds.contains_iff {b : SpreadBounds} {districts : Nat} :
    b.contains districts ↔ SpreadBounds.Admits (some b) districts := by
  simp [contains, Admits, atLeast_iff, atMost_iff, Option.all_eq_true]

theorem SpreadBounds.admits_of_isUnbounded {b : SpreadBounds} (unbounded : b.isUnbounded)
    (districts : Nat) : SpreadBounds.Admits (some b) districts := by
  simp_all [isUnbounded, Admits]

theorem PopularityBounds.isUnbounded_iff {b : PopularityBounds} :
    b.isUnbounded ↔ PopularityBounds.Unlimited (some b) := by
  simp [isUnbounded, Unlimited]

namespace Stage

/-! ### Years, district and spread -/

theorem years_eq_filter (bounds : Option YearBounds) (rows : List Registration) :
    years bounds rows = rows.filter fun r => YearBounds.Admits bounds r.year := by
  cases bounds with
  | none => simp [years, YearBounds.Admits]
  | some b => exact List.filter_congr fun r _ => by simp [← YearBounds.contains_iff]

theorem years_eq_population (filters : Filters) (rows : List Registration) :
    years filters.years rows = filters.population rows :=
  years_eq_filter filters.years rows

theorem district_eq_within (d : Option String) (rows : List Registration) :
    district d rows = within d rows := by
  cases d with
  | none => simp [district, within]
  | some d => exact List.filter_congr fun r _ => by simp [beq_eq_decide]

/-- A key has as many districts as occur among its registrations. -/
theorem get?_districtCounts (rows : List Registration) (key : NameKey) :
    (districtCounts rows).get? key =
      if key ∈ rows.map Registration.key then some (districts (ofKey key rows)).card else none :=
  Tally.get?_distinctBy Registration.key Registration.district rows key

/-- The spread stage keeps the registrations of the keys whose districts the bounds admit. -/
theorem spread_eq_filter (bounds : Option SpreadBounds) (rows : List Registration) :
    spread bounds rows =
      rows.filter fun r => SpreadBounds.Admits bounds (districts (ofKey r.key rows)).card := by
  cases bounds with
  | none => simp [spread, SpreadBounds.Admits]
  | some b =>
      by_cases unbounded : b.isUnbounded
      · simp [spread, unbounded, SpreadBounds.admits_of_isUnbounded unbounded]
      · simp only [spread, if_neg unbounded]
        refine List.filter_congr fun r member => ?_
        have present : r.key ∈ rows.map Registration.key := List.mem_map.mpr ⟨r, member, rfl⟩
        simp [get?_districtCounts, present, ← SpreadBounds.contains_iff]

/-! ### Popularity with any addition -/

section AnyAddition

variable (plus : Nat → Nat → Nat)

/-- Whether the popularity stage keeps a spelling. -/
def keeps (bounds : Option PopularityBounds) (rows : List Registration) (name : String) : Bool :=
  bounds.all fun b => b.isUnbounded || ((popularNames plus b rows).get? name).isSome

theorem popularityWith_eq_filter (bounds : Option PopularityBounds) (rows : List Registration) :
    popularityWith plus bounds rows = rows.filter fun r => keeps plus bounds rows r.name := by
  cases bounds with
  | none => simp [popularityWith, keeps]
  | some b =>
      by_cases unbounded : b.isUnbounded
      · simp [popularityWith, keeps, unbounded]
      · simp [popularityWith, keeps, unbounded]

/-- A spelling is popular within the limits by a key whose total stays within the limit. -/
theorem isSome_get?_popularNames_iff {b : PopularityBounds} {rows : List Registration}
    {name : String} :
    ((popularNames plus b rows).get? name).isSome ↔
      ∃ e ∈ (limitedTotals plus b rows).entries, b.total.all (atMost e.2) ∧ e.1.name = name := by
  refine (Tally.isSome_get?_labels (fun e : NameKey × Nat => e.1.name) _ name).trans ?_
  simp only [List.mem_map, List.mem_filter, and_assoc]

/-- A key has a total where one of its yearly sums is within the yearly limit. -/
theorem mem_keys_limitedTotals {b : PopularityBounds} {rows : List Registration} {key : NameKey} :
    key ∈ (limitedTotals plus b rows).keys ↔
      ∃ e ∈ (yearSums plus rows).entries, b.perYear.all (atMost e.2) ∧ e.1.second = key := by
  refine (Tally.mem_keys_gather (fun e : Compound Int32 NameKey × Nat => e.1.second)
    (fun e sum => plus (sum.getD 0) e.2)).trans ?_
  simp only [List.mem_map, List.mem_filter, and_assoc]

end AnyAddition

/-! ### Popularity with exact addition -/

theorem mem_entries_yearSums {rows : List Registration} {year : Int32} {key : NameKey} {sum : Nat} :
    (⟨year, key⟩, sum) ∈ (yearSums (· + ·) rows).entries ↔
      (∃ r ∈ rows, r.year = year ∧ r.key = key) ∧ sum = weight (ofYear year (ofKey key rows)) := by
  have sums : Tally.sumAt (fun r : Registration => (⟨r.year, r.key⟩ : Compound Int32 NameKey))
      Registration.weight rows ⟨year, key⟩ = weight (ofYear year (ofKey key rows)) := by
    simp only [Tally.sumAt, weight, ofYear, ofKey, List.filter_filter, Compound.mk.injEq,
      Bool.decide_and]
  have entry : (⟨year, key⟩, sum) ∈ (yearSums (· + ·) rows).entries ↔ _ :=
    Tally.mem_entries_sumBy (fun r : Registration => (⟨r.year, r.key⟩ : Compound Int32 NameKey))
      Registration.weight
  rw [sums] at entry
  refine entry.trans (and_congr_left fun _ => ?_)
  simp

/-- The entries of one key among the yearly sums within the limit. -/
def quietEntries (b : PopularityBounds) (rows : List Registration) (key : NameKey) :
    List (Compound Int32 NameKey × Nat) :=
  ((yearSums (· + ·) rows).entries.filter fun e => b.perYear.all (atMost e.2)).filter fun e =>
    e.1.second = key

theorem mem_quietEntries {b : PopularityBounds} {rows : List Registration} {key : NameKey}
    {e : Compound Int32 NameKey × Nat} :
    e ∈ quietEntries b rows key ↔
      e.1.first ∈ b.quietYears (ofKey key rows) ∧ e.1.second = key ∧
        e.2 = weight (ofYear e.1.first (ofKey key rows)) := by
  obtain ⟨⟨year, key'⟩, sum⟩ := e
  simp only [quietEntries, List.mem_filter, mem_entries_yearSums, Option.all_eq_true, atMost_iff,
    decide_eq_true_eq, PopularityBounds.quietYears, Finset.mem_filter, List.mem_toFinset,
    List.mem_map, mem_ofKey]
  constructor
  · rintro ⟨⟨⟨⟨r, member, rfl, rfl⟩, rfl⟩, quiet⟩, rfl⟩
    exact ⟨⟨⟨r, ⟨member, rfl⟩, rfl⟩, quiet⟩, rfl, rfl⟩
  · rintro ⟨⟨⟨r, ⟨member, rfl⟩, rfl⟩, quiet⟩, rfl, rfl⟩
    exact ⟨⟨⟨⟨r, member, rfl, rfl⟩, rfl⟩, quiet⟩, rfl⟩

theorem quietEntry_mem {b : PopularityBounds} {rows : List Registration} {key : NameKey}
    {year : Int32} (quiet : year ∈ b.quietYears (ofKey key rows)) :
    (⟨year, key⟩, weight (ofYear year (ofKey key rows))) ∈ quietEntries b rows key :=
  mem_quietEntries.mpr ⟨quiet, rfl, rfl⟩

/-- The yearly sums of a key within the limit, added up. -/
theorem sum_quietEntries (b : PopularityBounds) (rows : List Registration) (key : NameKey) :
    ((quietEntries b rows key).map Prod.snd).sum =
      ∑ year ∈ b.quietYears (ofKey key rows), weight (ofYear year (ofKey key rows)) := by
  set quiet := quietEntries b rows key with quiet_def
  have increasing : Tally.Increasing quiet :=
    ((Tally.ordered_sumWith _ _ _ rows).filter _).filter _
  -- With the key fixed, the years alone tell the entries apart.
  have distinct : (quiet.map fun e => e.1.first).Nodup := by
    refine List.pairwise_map.mpr ((List.pairwise_map.mp increasing.nodup_keys).imp_of_mem ?_)
    intro e e' member member' different same
    refine different (congrArg₂ Compound.mk same ?_)
    exact (mem_quietEntries.mp member).2.1.trans (mem_quietEntries.mp member').2.1.symm
  have years : (quiet.map fun e => e.1.first).toFinset = b.quietYears (ofKey key rows) := by
    ext year
    simp only [List.mem_toFinset, List.mem_map]
    constructor
    · rintro ⟨e, member, rfl⟩
      exact (mem_quietEntries.mp member).1
    · intro member
      exact ⟨_, quietEntry_mem member, rfl⟩
  rw [← years, List.sum_toFinset _ distinct, List.map_map]
  exact congrArg List.sum
    (List.map_congr_left fun e member => (mem_quietEntries.mp member).2.2)

/-- A key with a year within the yearly limit has the sum of those years. -/
theorem get?_limitedTotals (b : PopularityBounds) (rows : List Registration) (key : NameKey) :
    (limitedTotals (· + ·) b rows).get? key =
      if (b.quietYears (ofKey key rows)).Nonempty then
        some (∑ year ∈ b.quietYears (ofKey key rows), weight (ofYear year (ofKey key rows)))
      else none := by
  have present : key ∈ ((yearSums (· + ·) rows).entries.filter fun e =>
      b.perYear.all (atMost e.2)).map (fun e => e.1.second) ↔
        (b.quietYears (ofKey key rows)).Nonempty := by
    rw [Tally.mem_map_iff_filter_ne_nil]
    change quietEntries b rows key ≠ [] ↔ _
    constructor
    · intro some
      obtain ⟨e, member⟩ := List.exists_mem_of_ne_nil _ some
      exact ⟨_, (mem_quietEntries.mp member).1⟩
    · rintro ⟨year, member⟩
      exact List.ne_nil_of_mem (quietEntry_mem member)
  refine (Tally.get?_sumBy (fun e : Compound Int32 NameKey × Nat => e.1.second) Prod.snd _
    key).trans ?_
  rw [← sum_quietEntries]
  exact if_congr present rfl rfl

/-- A spelling is popular within the limits by one of its keys. -/
theorem isSome_get?_popularNames {b : PopularityBounds} {rows : List Registration} {name : String} :
    ((popularNames (· + ·) b rows).get? name).isSome ↔
      ∃ g : Gender, b.Admits (ofKey ⟨name, g⟩ rows) := by
  have ordered : (limitedTotals (· + ·) b rows).Ordered := Tally.ordered_sumWith _ _ _ _
  have found : ∀ {key : NameKey} {sum : Nat},
      (key, sum) ∈ (limitedTotals (· + ·) b rows).entries ↔
        (b.quietYears (ofKey key rows)).Nonempty ∧
          sum = ∑ year ∈ b.quietYears (ofKey key rows), weight (ofYear year (ofKey key rows)) := by
    intro key sum
    rw [ordered.mem_entries, get?_limitedTotals]
    split <;> simp_all [eq_comm]
  rw [isSome_get?_popularNames_iff]
  simp only [Prod.exists, found, Option.all_eq_true, atMost_iff, PopularityBounds.Admits]
  constructor
  · rintro ⟨⟨name, g⟩, sum, ⟨some, rfl⟩, limited, rfl⟩
    exact ⟨g, some, limited⟩
  · rintro ⟨g, some, limited⟩
    exact ⟨⟨name, g⟩, _, ⟨some, rfl⟩, limited, rfl⟩

/-- A spelling is kept where the limits admit one of its keys. -/
theorem keeps_iff_admitsSpelling {bounds : Option PopularityBounds} {rows : List Registration}
    {name : String} :
    keeps (· + ·) bounds rows name ↔ PopularityBounds.AdmitsSpelling bounds rows name := by
  cases bounds with
  | none => simp [keeps, PopularityBounds.AdmitsSpelling, PopularityBounds.Unlimited]
  | some b =>
      rw [keeps, Option.all_some, Bool.or_eq_true, isSome_get?_popularNames,
        PopularityBounds.isUnbounded_iff]
      simp [PopularityBounds.AdmitsSpelling]

/-- The popularity stage keeps the registrations of the spellings that the limits admit. -/
theorem popularity_eq_filter (bounds : Option PopularityBounds) (rows : List Registration) :
    popularity bounds rows =
      rows.filter fun r => PopularityBounds.AdmitsSpelling bounds rows r.name := by
  refine (popularityWith_eq_filter (· + ·) bounds rows).trans (List.filter_congr fun r _ => ?_)
  rw [Bool.eq_iff_iff, keeps_iff_admitsSpelling, decide_eq_true_iff]

/-! ### Stages with an addition of bounded range -/

/-- The yearly sums within the yearly limit are together at most the count of all rows. -/
theorem sum_limitedSums_le (b : PopularityBounds) (rows : List Registration) :
    (((yearSums (· + ·) rows).entries.filter fun e => b.perYear.all (atMost e.2)).map
      Prod.snd).sum ≤ weight rows := by
  have values : ((yearSums (· + ·) rows).entries.map Prod.snd).sum = weight rows :=
    Tally.sum_values_sumBy _ Registration.weight rows
  rw [← values]
  exact (List.filter_sublist.map Prod.snd).sum_le_sum fun _ _ => Nat.zero_le _

section Exact

variable {plus : Nat → Nat → Nat} {rows : List Registration}
  (exact : Tally.ExactUpTo (weight rows) plus)

include exact

theorem yearSums_eq : yearSums plus rows = yearSums (· + ·) rows :=
  Tally.sumWith_eq_sumBy Registration.weight exact _ le_rfl

theorem limitedTotals_eq (b : PopularityBounds) :
    limitedTotals plus b rows = limitedTotals (· + ·) b rows := by
  unfold limitedTotals
  rw [yearSums_eq exact]
  exact Tally.sumWith_eq_sumBy Prod.snd exact _ (sum_limitedSums_le b rows)

/-- An addition that is exact up to the count of all rows keeps the same rows. -/
theorem popularityWith_eq (bounds : Option PopularityBounds) :
    popularityWith plus bounds rows = popularity bounds rows := by
  cases bounds with
  | none => rfl
  | some b => simp only [popularity, popularityWith, popularNames, limitedTotals_eq exact]

end Exact

end Stage

end GivenNames
