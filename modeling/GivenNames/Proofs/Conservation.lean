import GivenNames.Proofs.Spellings
import GivenNames.Proofs.Tally.Regrouping

/-!
The views of one name conserve its counts.

The map, the trend and the scatter read the same registrations of a name, upper and lower case aside
(`named`): the map by district, the trend by year, the scatter by key. Main statement: the trends of
the districts add up to the map district by district and to the nationwide trend year by year, and
all of them make up the same whole, which is also what the points of the name have in total
(`mapWith_conserves`). A count of zero is present, a missing one is not.
-/

namespace GivenNames

open Population

namespace View

variable (registry : Registry) (name : String) (years : Option YearBounds)

/-! ### The registrations of one name -/

/-- The registrations of a name in the window of years, upper and lower case aside. -/
def named : List Registration :=
  Stage.name (some name) (Stage.years years registry.registrations)

theorem named_eq_spelled :
    named registry name years = spelled (fun s => Text.lower s = Text.lower name)
      (Stage.years years registry.registrations) := by
  simp only [named, Stage.name, spelled, beq_eq_decide]

theorem yearlyCounts_trend_some (d : String) :
    (trend registry name years (some d)).yearlyCounts =
      Tally.sumBy Registration.year Registration.weight
        ((named registry name years).filter fun r => r.district = d) := by
  have rows : Stage.name (some name)
      (Stage.district (some d) (Stage.years years registry.registrations)) =
        (named registry name years).filter fun r => r.district = d := by
    simp only [named, Stage.name, Stage.district, List.filter_filter, Bool.and_comm, beq_eq_decide]
  exact congrArg (Tally.sumBy Registration.year Registration.weight) rows

/-! ### The whole -/

/-- The points of an unfiltered scatter have the whole population in total. -/
theorem sum_countTotal_scatter :
    ((scatter registry ⟨years, none, none, none⟩).map RarityPoint.countTotal).sum =
      weight (Stage.years years registry.registrations) := by
  set rows := Stage.years years registry.registrations with rows_def
  have totals : (scatter registry ⟨years, none, none, none⟩).map RarityPoint.countTotal =
      (countsWith (· + ·) rows).values := by
    have entries := Tally.entries_sumBy Registration.key Registration.weight rows
    have narrowed : narrowWith (· + ·) ⟨years, none, none, none⟩ rows = rows := rfl
    rw [Tally.values, show (countsWith (· + ·) rows).entries = _ from entries, List.map_map,
      scatter, scatterWith]
    simp only [← rows_def, narrowed, Tally.leftJoin, List.map_map]
    refine List.map_congr_left fun key _ => ?_
    exact getD_get?_countsWith rows key
  rw [totals]
  exact Tally.sum_values_sumBy Registration.key Registration.weight rows

/-- The points of a name have its registrations in total. -/
theorem sum_countTotal_points :
    (((scatter registry ⟨years, none, none, none⟩).filter fun p =>
      Text.lower p.name = Text.lower name).map RarityPoint.countTotal).sum =
        weight (named registry name years) := by
  have alone := scatterWith_spelled (p := fun s => Text.lower s = Text.lower name) (· + ·)
    ⟨years, none, none, none⟩ registry
  have whole := sum_countTotal_scatter
    (.ofList (spelled (fun s => Text.lower s = Text.lower name) registry.registrations)) years
  have window := population_spelled (p := fun s => Text.lower s = Text.lower name)
    registry.registrations ⟨years, none, none, none⟩
  -- The points of the name are all points of the registry that holds this name alone.
  rw [scatter, alone] at whole
  rw [scatter, whole, named_eq_spelled, Stage.years_eq_filter, Stage.years_eq_filter]
  exact congrArg weight window

/-- The greatest count of a map is the greatest of its counts, zero where it has none. -/
theorem maxCount_map :
    (map registry name years).maxCount =
      (map registry name years).districtCounts.values.max?.getD 0 := by
  change (map registry name years).districtCounts.values.foldl max 0 = _
  cases (map registry name years).districtCounts.values with
  | nil => rfl
  | cons v values => rw [List.max?_cons', List.foldl_cons, Nat.zero_max, Option.getD_some]

/-! ### Conservation -/

/-- The three views of a name conserve its counts, where those of the registry add up to a word. The
map has a district exactly when the trend there has years, with the sum of the trend as its count.
The nationwide trend has a year exactly when some district has it, with the sum over all districts
as its count. The map and the nationwide trend have the same sum, and so have the points whose
spelling is the name but for case, by their nationwide counts. The greatest count of the map is the
greatest of its counts, zero where it is empty. -/
theorem mapWith_conserves {plus : Nat → Nat → Nat}
    (exact : Tally.ExactUpTo (weight registry.registrations) plus) :
    let districtMap := mapWith plus registry name years
    let nationwide := (trendWith plus registry name years none).yearlyCounts
    let trendIn := fun d => (trendWith plus registry name years (some d)).yearlyCounts
    let points := (scatterWith plus registry ⟨years, none, none, none⟩).filter fun p =>
      Text.lower p.name = Text.lower name
    (∀ d, districtMap.districtCounts.get? d =
      if (trendIn d).entries = [] then none else some (trendIn d).values.sum) ∧
    (∀ y, (y ∈ nationwide.keys ↔ ∃ d, y ∈ (trendIn d).keys) ∧
      (nationwide.get? y).getD 0 = ∑ᶠ d, ((trendIn d).get? y).getD 0) ∧
    (districtMap.districtCounts.values.sum = nationwide.values.sum ∧
      districtMap.districtCounts.values.sum = (points.map RarityPoint.countTotal).sum) ∧
    districtMap.maxCount = districtMap.districtCounts.values.max?.getD 0 := by
  intro districtMap nationwide trendIn points
  set rows := named registry name years
  have mapped : districtMap = map registry name years := mapWith_eq exact name years
  have counts : districtMap.districtCounts =
      Tally.sumBy Registration.district Registration.weight rows := by
    rw [mapped]
    rfl
  have whole : nationwide = Tally.sumBy Registration.year Registration.weight rows :=
    congrArg YearTrend.yearlyCounts (trendWith_eq exact name years none)
  have parts : ∀ d, trendIn d = Tally.sumBy Registration.year Registration.weight
      (rows.filter fun r => r.district = d) := fun d =>
    (congrArg YearTrend.yearlyCounts (trendWith_eq exact name years (some d))).trans
      (yearlyCounts_trend_some registry name years d)
  refine ⟨fun d => ?_, fun y => ⟨?_, ?_⟩, ⟨?_, ?_⟩, ?_⟩
  · rw [counts, parts]
    exact Tally.get?_sumBy_eq_part Registration.district Registration.year Registration.weight
      rows d
  · simp only [whole, parts]
    exact Tally.mem_keys_sumBy_iff_exists_group Registration.district Registration.year
      Registration.weight rows
  · simp only [whole, parts, Tally.getD_get?_sumBy]
    exact Tally.sumAt_eq_finsum Registration.district Registration.year Registration.weight rows y
  · rw [counts, whole, Tally.sum_values_sumBy, Tally.sum_values_sumBy]
  · have total := sum_countTotal_points registry name years
    rw [← scatterWith_eq exact] at total
    rw [counts, Tally.sum_values_sumBy]
    exact total.symm
  · rw [mapped]
    exact maxCount_map registry name years

/-- One name in three spellings and with both genders, once with a count of zero. -/
def casesSample : List Registration :=
  [⟨2000, "A", .male, "Alex", 4⟩, ⟨2001, "B", .male, "ALEX", 6⟩, ⟨2000, "B", .female, "alex", 0⟩,
    ⟨2001, "A", .female, "Maria", 10⟩]

/-- The counts of that name: the year that has only a count of zero in a district is there. -/
theorem mapWith_conserves_casesSample :
    let registry := Registry.ofList casesSample
    let districtMap := mapWith wrappingAdd registry "aLEX" none
    let nationwide := (trendWith wrappingAdd registry "aLEX" none none).yearlyCounts
    let trendIn := fun d => (trendWith wrappingAdd registry "aLEX" none (some d)).yearlyCounts
    let points := (scatterWith wrappingAdd registry Filters.none).filter fun p =>
      Text.lower p.name = Text.lower "aLEX"
    Tally.ExactUpTo (weight registry.registrations) wrappingAdd ∧
    (districtMap.districtCounts = ⟨[("A", 4), ("B", 6)]⟩ ∧
      trendIn "B" = ⟨[(2000, 0), (2001, 6)]⟩ ∧
      points = [⟨"ALEX", .male, 6, 6⟩, ⟨"Alex", .male, 4, 4⟩, ⟨"alex", .female, 0, 0⟩]) ∧
    (∀ d, districtMap.districtCounts.get? d =
      if (trendIn d).entries = [] then none else some (trendIn d).values.sum) ∧
    (∀ y, (y ∈ nationwide.keys ↔ ∃ d, y ∈ (trendIn d).keys) ∧
      (nationwide.get? y).getD 0 = ∑ᶠ d, ((trendIn d).get? y).getD 0) ∧
    (districtMap.districtCounts.values.sum = nationwide.values.sum ∧
      districtMap.districtCounts.values.sum = (points.map RarityPoint.countTotal).sum) ∧
    districtMap.maxCount = districtMap.districtCounts.values.max?.getD 0 := by
  intro registry districtMap nationwide trendIn points
  have exact : Tally.ExactUpTo (weight registry.registrations) wrappingAdd :=
    exactUpTo_wrappingAdd (by decide)
  have shown : districtMap.districtCounts = ⟨[("A", 4), ("B", 6)]⟩ ∧
      trendIn "B" = ⟨[(2000, 0), (2001, 6)]⟩ ∧
      points = [⟨"ALEX", .male, 6, 6⟩, ⟨"Alex", .male, 4, 4⟩, ⟨"alex", .female, 0, 0⟩] := by
    decide +kernel
  exact ⟨exact, shown, mapWith_conserves registry "aLEX" none exact⟩

end View

end GivenNames
