import GivenNames.Proofs.Answers
import GivenNames.Proofs.Scatter

/-!
The views see a registry only as a table of sums.

Two populations are the same table when the same cells (year, district, gender, name) are filled
and hold the same sums. Filters that look at the cell keep them the same table (`SameTable.filter`),
and tallies of parts of the cell are then equal (`SameTable.sumBy_eq`). Main statement: registries
that are the same table answer every request alike, so neither the order of registrations matters
nor whether several of one cell are kept apart (`answers_of_sameTable`).
-/

namespace GivenNames

open Population

/-- Where a registration is entered: its year, district, gender and name. -/
def Registration.cell (r : Registration) : Int32 × String × Gender × String :=
  (r.year, r.district, r.gender, r.name)

namespace Population

/-- The key of a cell. -/
def cellKey (c : Int32 × String × Gender × String) : NameKey :=
  ⟨c.2.2.2, c.2.2.1⟩

/-- Two populations fill the same cells with the same sums. -/
structure SameTable (rows rows' : List Registration) : Prop where
  cells : ∀ c, c ∈ rows.map Registration.cell ↔ c ∈ rows'.map Registration.cell
  sums : ∀ c, Tally.sumAt Registration.cell Registration.weight rows c =
    Tally.sumAt Registration.cell Registration.weight rows' c

/-! ### Tables that are the same -/

theorem SameTable.of_perm {rows rows' : List Registration} (perm : rows.Perm rows') :
    SameTable rows rows' where
  cells _ := (perm.map Registration.cell).mem_iff
  sums _ := ((perm.filter _).map Registration.weight).sum_eq

/-- The registration of a cell that stands for two. -/
def merge (r s : Registration) : Registration :=
  { r with count := r.count + s.count }

theorem SameTable.merge {r s : Registration} (same : r.cell = s.cell)
    (fits : r.weight + s.weight < UInt64.size) (rows : List Registration) :
    SameTable (r :: s :: rows) (merge r s :: rows) where
  cells c := by simp [same, show (Population.merge r s).cell = r.cell from rfl]
  sums c := by
    have sum : (Population.merge r s).weight = r.weight + s.weight :=
      (UInt64.toNat_add r.count s.count).trans (Nat.mod_eq_of_lt fits)
    simp only [Tally.sumAt_cons, sum, same, show (Population.merge r s).cell = r.cell from rfl]
    split <;> omega

theorem SameTable.trans {rows rows' rows'' : List Registration} (first : SameTable rows rows')
    (second : SameTable rows' rows'') : SameTable rows rows'' where
  cells c := (first.cells c).trans (second.cells c)
  sums c := (first.sums c).trans (second.sums c)

theorem SameTable.symm {rows rows' : List Registration} (same : SameTable rows rows') :
    SameTable rows' rows where
  cells c := (same.cells c).symm
  sums c := (same.sums c).symm

/-! ### What is the same in the same table -/

variable {rows rows' : List Registration} (same : SameTable rows rows')

include same

theorem SameTable.filter (p : Int32 × String × Gender × String → Bool) :
    SameTable (rows.filter fun r => p r.cell) (rows'.filter fun r => p r.cell) where
  cells c := by
    rw [Tally.mem_map_iff_filter_ne_nil, Tally.mem_map_iff_filter_ne_nil, Tally.filter_filter_key,
      Tally.filter_filter_key]
    split
    · exact Tally.mem_map_iff_filter_ne_nil.symm.trans
        ((same.cells c).trans Tally.mem_map_iff_filter_ne_nil)
    · rfl
  sums c := by
    simp only [Tally.sumAt, Tally.filter_filter_key]
    split
    · exact same.sums c
    · rfl

/-- What is seen of the cells is the same. -/
theorem SameTable.mem_map_iff {α : Type} (f : Int32 × String × Gender × String → α) {x : α} :
    x ∈ rows.map (fun r => f r.cell) ↔ x ∈ rows'.map fun r => f r.cell := by
  have cells : ∀ rows : List Registration,
      x ∈ rows.map (fun r => f r.cell) ↔ ∃ c ∈ rows.map Registration.cell, f c = x := by simp
  rw [cells, cells]
  exact exists_congr fun c => and_congr_left fun _ => same.cells c

/-- The whole sums are the same: they are made up of the sums of the cells. -/
theorem SameTable.weight_eq : weight rows = weight rows' := by
  have cells : (rows.map Registration.cell).toFinset = (rows'.map Registration.cell).toFinset := by
    ext c
    rw [List.mem_toFinset, List.mem_toFinset, same.cells]
  have covers : ∀ rows : List Registration, ∀ r ∈ rows,
      r.cell ∈ (rows.map Registration.cell).toFinset :=
    fun _ r member => List.mem_toFinset.mpr (List.mem_map.mpr ⟨r, member, rfl⟩)
  calc weight rows
      = ∑ c ∈ (rows.map Registration.cell).toFinset,
          Tally.sumAt Registration.cell Registration.weight rows c :=
        (Tally.sum_sumAt _ _ (covers rows)).symm
    _ = ∑ c ∈ (rows'.map Registration.cell).toFinset,
          Tally.sumAt Registration.cell Registration.weight rows' c := by
        rw [cells]
        exact Finset.sum_congr rfl fun c _ => same.sums c
    _ = weight rows' := Tally.sum_sumAt _ _ (covers rows')

/-- Tallies under any part of the cell are equal. -/
theorem SameTable.sumBy_eq {K : Type} [Ord K] [Std.TransOrd K] [Std.LawfulEqOrd K] [DecidableEq K]
    (part : Int32 × String × Gender × String → K) :
    Tally.sumBy (fun r => part r.cell) Registration.weight rows =
      Tally.sumBy (fun r => part r.cell) Registration.weight rows' := by
  refine (Tally.ordered_sumBy _ _ rows).ext (Tally.ordered_sumBy _ _ rows') fun k => ?_
  have sums := (same.filter fun c => part c = k).weight_eq
  rw [Tally.get?_sumBy, Tally.get?_sumBy]
  exact if_congr (same.mem_map_iff part) (congrArg some sums) rfl

/-! ### Parts and stages -/

theorem SameTable.ofKey (key : NameKey) :
    SameTable (ofKey key rows) (Population.ofKey key rows') :=
  same.filter fun c => cellKey c = key

theorem SameTable.ofYear (year : Int32) :
    SameTable (ofYear year rows) (Population.ofYear year rows') :=
  same.filter fun c => c.1 = year

theorem SameTable.within (district : Option String) :
    SameTable (within district rows) (Population.within district rows') :=
  same.filter fun c => ∀ d ∈ district, c.2.1 = d

theorem SameTable.districts_eq : districts rows = districts rows' := by
  ext d
  rw [districts, districts, List.mem_toFinset, List.mem_toFinset]
  exact same.mem_map_iff fun c => c.2.1

theorem SameTable.population (filters : Filters) :
    SameTable (filters.population rows) (filters.population rows') :=
  same.filter fun c => YearBounds.Admits filters.years c.1

theorem SameTable.quietYears_eq (b : PopularityBounds) :
    b.quietYears rows = b.quietYears rows' := by
  ext year
  have years : year ∈ rows.map Registration.year ↔ year ∈ rows'.map Registration.year :=
    same.mem_map_iff Prod.fst
  have sums : weight (Population.ofYear year rows) = weight (Population.ofYear year rows') :=
    (same.ofYear year).weight_eq
  simp only [PopularityBounds.quietYears, Finset.mem_filter, List.mem_toFinset, years, sums]

theorem SameTable.admits_iff (b : PopularityBounds) : b.Admits rows ↔ b.Admits rows' := by
  rw [PopularityBounds.Admits, PopularityBounds.Admits, same.quietYears_eq,
    Finset.sum_congr rfl fun year _ => (same.ofYear year).weight_eq]

theorem SameTable.spread (bounds : Option SpreadBounds) :
    SameTable (Stage.spread bounds rows) (Stage.spread bounds rows') := by
  rw [Stage.spread_eq_filter, Stage.spread_eq_filter]
  simp only [(same.ofKey _).districts_eq]
  exact same.filter fun c => SpreadBounds.Admits bounds
    (districts (Population.ofKey (cellKey c) rows')).card

theorem SameTable.passes_iff (filters : Filters) (key : NameKey) :
    filters.Passes rows key ↔ filters.Passes rows' key := by
  have local' := (same.spread filters.spread).within filters.district
  refine and_congr ?_ (or_congr_right (exists_congr fun g => forall₂_congr fun b _ => ?_))
  · rw [(same.ofKey key).districts_eq]
  · exact (local'.ofKey _).admits_iff b

theorem SameTable.narrowWith (filters : Filters) :
    SameTable (View.narrowWith (· + ·) filters rows)
      (View.narrowWith (· + ·) filters rows') := by
  rw [View.narrowWith_eq_filter, View.narrowWith_eq_filter]
  simp only [same.passes_iff]
  exact (same.within filters.district).filter fun c => filters.Passes rows' (cellKey c)

/-- The sums of keys are the same. -/
theorem SameTable.countsWith_eq :
    View.countsWith (· + ·) rows = View.countsWith (· + ·) rows' :=
  same.sumBy_eq cellKey

theorem SameTable.survivors_eq (filters : Filters) :
    View.survivors filters rows = View.survivors filters rows' :=
  congrArg Tally.keys (same.narrowWith filters).countsWith_eq

theorem SameTable.localCount_eq (filters : Filters) (key : NameKey) :
    filters.localCount rows key = filters.localCount rows' key :=
  ((same.ofKey key).within filters.district).weight_eq

theorem SameTable.name (name : Option String) :
    SameTable (Stage.name name rows) (Stage.name name rows') := by
  cases name with
  | none => exact same
  | some name => exact same.filter fun c => Text.lower c.2.2.2 == Text.lower name

theorem SameTable.years (bounds : Option YearBounds) :
    SameTable (Stage.years bounds rows) (Stage.years bounds rows') := by
  rw [Stage.years_eq_filter, Stage.years_eq_filter]
  exact same.filter fun c => YearBounds.Admits bounds c.1

theorem SameTable.district (district : Option String) :
    SameTable (Stage.district district rows) (Stage.district district rows') := by
  rw [Stage.district_eq_within, Stage.district_eq_within]
  exact same.within district

end Population

/-! ### Views of the same table -/

section Views

variable {a b : Registry} (same : SameTable a.registrations b.registrations)

include same

theorem candidatesWith_of_sameTable (filters : Filters) :
    View.candidatesWith (· + ·) a filters = View.candidatesWith (· + ·) b filters := by
  have window := same.population filters
  rw [View.candidatesWith_eq_map, View.candidatesWith_eq_map, window.survivors_eq]
  refine List.map_congr_left fun key _ => ?_
  rw [Filters.rankedName, Filters.rankedName, window.localCount_eq, (window.ofKey key).weight_eq,
    (window.ofKey key).districts_eq]

theorem scatter_of_sameTable (filters : Filters) :
    View.scatter a filters = View.scatter b filters := by
  have window := same.population filters
  rw [View.scatter_eq_map, View.scatter_eq_map, window.survivors_eq]
  refine List.map_congr_left fun key _ => ?_
  rw [Filters.rarityPoint, Filters.rarityPoint, window.localCount_eq, (window.ofKey key).weight_eq]

theorem trend_of_sameTable (name : String) (years : Option YearBounds) (district : Option String) :
    View.trend a name years district = View.trend b name years district := by
  have rows := ((same.years years).district district).name name
  exact congrArg (YearTrend.mk name) (rows.sumBy_eq Prod.fst)

theorem map_of_sameTable (name : String) (years : Option YearBounds) :
    View.map a name years = View.map b name years := by
  have rows := (same.years years).name name
  exact congrArg (View.mapOf name) (rows.sumBy_eq fun c => c.2.1)

end Views

/-! ### Answers of the same table -/

/-- Two registries answer every request and every call alike. -/
def SameAnswers (a b : Registry) : Prop :=
  (∀ request : Request, request.answer a = request.answer b) ∧
    ∀ name text, call a name text = call b name text

theorem sameAnswers_of_sameTable {a b : Registry}
    (same : SameTable a.registrations b.registrations)
    (fits : weight a.registrations < UInt64.size) : SameAnswers a b := by
  have exactA := View.exactUpTo_wrappingAdd fits
  have exactB := View.exactUpTo_wrappingAdd (same.weight_eq ▸ fits)
  have answers : ∀ request : Request, request.answer a = request.answer b := by
    intro request
    cases request with
    | table filters =>
        have candidates := candidatesWith_of_sameTable same filters
        simp only [Request.answer, Request.run, View.candidatesWith_eq exactA,
          View.candidatesWith_eq exactB, candidates]
    | trend name years district =>
        have trend := trend_of_sameTable same name years district
        simp only [Request.answer, Request.run, View.trendWith_eq exactA, View.trendWith_eq exactB,
          trend]
    | scatter filters =>
        have points := scatter_of_sameTable same filters
        simp only [Request.answer, Request.run, View.scatterWith_eq exactA,
          View.scatterWith_eq exactB, points]
    | map name years =>
        have map := map_of_sameTable same name years
        simp only [Request.answer, Request.run, View.mapWith_eq exactA, View.mapWith_eq exactB, map]
  exact ⟨answers, fun name text => by simp only [call_eq, answers]⟩

/-- A registry whose counts add up to a word gives the same answers as every registry that is the
same table: as one with its registrations in another order, and as one in which two registrations of
one cell, wherever they stand, are merged. -/
theorem answers_of_sameTable {a : Registry} (fits : weight a.registrations < UInt64.size) :
    (∀ b : Registry, SameTable a.registrations b.registrations → SameAnswers a b) ∧
    (∀ b : Registry, a.registrations.Perm b.registrations → SameAnswers a b) ∧
    (∀ (b : Registry) (r s : Registration) (rows : List Registration), r.cell = s.cell →
      a.registrations.Perm (r :: s :: rows) → b.registrations.Perm (merge r s :: rows) →
        SameAnswers a b) := by
  refine ⟨fun b same => sameAnswers_of_sameTable same fits, fun b perm =>
    sameAnswers_of_sameTable (.of_perm perm) fits, ?_⟩
  intro b r s rows same apart merged
  have sum : r.weight + s.weight < UInt64.size := by
    have whole := (SameTable.of_perm apart).weight_eq
    simp only [weight, List.map_cons, List.sum_cons] at whole fits
    omega
  have tables := ((SameTable.of_perm apart).trans (.merge same sum rows)).trans
    (SameTable.of_perm merged).symm
  exact sameAnswers_of_sameTable tables fits

/-- The sample with its first registration in two parts. -/
def splitSample : List Registration :=
  ⟨2000, "A", .male, "Alex", 1⟩ :: ⟨2000, "A", .male, "Alex", 3⟩ :: sample.tail

/-- The split sample answers as it does backwards, and as the sample does. -/
theorem answers_of_splitSample :
    weight (Registry.ofList splitSample).registrations < UInt64.size ∧
      SameAnswers (Registry.ofList splitSample) (Registry.ofList splitSample.reverse) ∧
        SameAnswers (Registry.ofList splitSample) (Registry.ofList sample) := by
  have fits : weight (Registry.ofList splitSample).registrations < UInt64.size := by decide
  obtain ⟨_, orders, merged⟩ := answers_of_sameTable fits
  have backwards : splitSample.Perm splitSample.reverse := (List.reverse_perm _).symm
  exact ⟨fits, orders _ backwards, merged _ ⟨2000, "A", .male, "Alex", 1⟩
    ⟨2000, "A", .male, "Alex", 3⟩ sample.tail rfl (.refl _) (.refl _)⟩

end GivenNames
