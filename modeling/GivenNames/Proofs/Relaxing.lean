import GivenNames.Proofs.Spellings

/-!
Relaxing bounds.

Wider bounds on districts let more keys through the spread stage, and each of them brings all of its
registrations along. So a total that the popularity stage had before is there again, unchanged
(`mem_entries_limitedTotals_filter`), and a spelling that was kept by one of its keys is kept by the
same key. Main statement: relaxing the bounds on districts, together with either the limit of the
total or, where there is none, the yearly limit, leaves every point of the scatter in place
(`scatterWith_sublist_of_relaxes`). With a limit of the total the yearly limit must stay: raising
it puts years back into the total.
-/

namespace GivenNames

open Population

/-! ### Relaxed bounds -/

/-- A minimum is kept, lowered or lifted. -/
def Lowered (old new : Option Int64) : Prop :=
  ∀ y ∈ new, ∃ x ∈ old, y.toInt ≤ x.toInt

/-- A maximum is kept, raised or lifted. -/
def Raised (old new : Option Int64) : Prop :=
  ∀ y ∈ new, ∃ x ∈ old, x.toInt ≤ y.toInt

theorem Raised.lift (old : Option Int64) : Raised old none := by
  intro y bound
  cases bound

theorem Lowered.of_le {x y : Int64} (below : y.toInt ≤ x.toInt) : Lowered (some x) (some y) := by
  rintro _ ⟨rfl⟩
  exact ⟨x, rfl, below⟩

theorem Raised.of_le {x y : Int64} (above : x.toInt ≤ y.toInt) : Raised (some x) (some y) := by
  rintro _ ⟨rfl⟩
  exact ⟨x, rfl, above⟩

theorem Raised.eq_none {new : Option Int64} (raised : Raised none new) : new = none := by
  cases new with
  | none => rfl
  | some y =>
      obtain ⟨x, absent, _⟩ := raised y rfl
      cases absent

theorem Raised.all_atMost {old new : Option Int64} (raised : Raised old new) {n : Nat}
    (within : old.all (atMost n)) : new.all (atMost n) := by
  rw [Option.all_eq_true] at within ⊢
  intro y bound
  obtain ⟨x, present, below⟩ := raised y bound
  have fits := atMost_iff.mp (within x present)
  exact atMost_iff.mpr (fits.trans below)

theorem Lowered.all_atLeast {old new : Option Int64} (lowered : Lowered old new) {n : Nat}
    (within : old.all (atLeast n)) : new.all (atLeast n) := by
  rw [Option.all_eq_true] at within ⊢
  intro y bound
  obtain ⟨x, present, above⟩ := lowered y bound
  have fits := atLeast_iff.mp (within x present)
  exact atLeast_iff.mpr (above.trans fits)

namespace Filters

/-- The bounds on districts in force. -/
def spreadBounds (filters : Filters) : SpreadBounds :=
  filters.spread.getD ⟨.none, .none⟩

/-- The limits of popularity in force. -/
def limits (filters : Filters) : PopularityBounds :=
  filters.popularity.getD ⟨.none, .none⟩

/-- The second filters ask no more than the first: of the same years and district, with bounds on
districts that are kept or relaxed, and with either the same yearly limit and a limit of the total
that is kept or relaxed, or no limit of the total and a yearly limit that is kept or relaxed. -/
structure Relaxes (f g : Filters) : Prop where
  years : f.years = g.years
  district : f.district = g.district
  minDistricts : Lowered f.spreadBounds.min g.spreadBounds.min
  maxDistricts : Raised f.spreadBounds.max g.spreadBounds.max
  popularity :
    (f.limits.perYear = g.limits.perYear ∧ Raised f.limits.total g.limits.total) ∨
      (f.limits.total = .none ∧ g.limits.total = .none ∧
        Raised f.limits.perYear g.limits.perYear)

theorem admits_spread_iff {filters : Filters} {n : Nat} :
    SpreadBounds.Admits filters.spread n ↔ filters.spreadBounds.contains n := by
  cases bounds : filters.spread with
  | none => simp [spreadBounds, bounds, SpreadBounds.Admits, SpreadBounds.contains]
  | some b => simp [spreadBounds, bounds, ← SpreadBounds.contains_iff]

variable {f g : Filters} (relaxes : f.Relaxes g)

include relaxes

theorem Relaxes.admits_spread {n : Nat} (admitted : SpreadBounds.Admits f.spread n) :
    SpreadBounds.Admits g.spread n := by
  rw [admits_spread_iff, SpreadBounds.contains, Bool.and_eq_true] at admitted ⊢
  obtain ⟨least, most⟩ := admitted
  exact ⟨relaxes.minDistricts.all_atLeast least, relaxes.maxDistricts.all_atMost most⟩

theorem Relaxes.isUnbounded (unbounded : f.limits.isUnbounded) : g.limits.isUnbounded := by
  simp only [PopularityBounds.isUnbounded, Bool.and_eq_true, Option.isNone_iff_eq_none] at *
  obtain ⟨total, perYear⟩ := unbounded
  rcases relaxes.popularity with ⟨same, raised⟩ | ⟨_, total', raised⟩
  · rw [total] at raised
    exact ⟨raised.eq_none, same.symm.trans perYear⟩
  · rw [perYear] at raised
    exact ⟨total', raised.eq_none⟩

end Filters

/-! ### Totals that stay -/

namespace Stage

variable (plus : Nat → Nat → Nat)

/-- More registrations of other keys leave the total of a key as it is. -/
theorem mem_entries_limitedTotals_filter {b : PopularityBounds} {rows : List Registration}
    {q : NameKey → Bool} {e : NameKey × Nat}
    (member : e ∈ (limitedTotals plus b (rows.filter fun r => q r.key)).entries) :
    e ∈ (limitedTotals plus b rows).entries := by
  rw [entries_limitedTotals_filter] at member
  exact List.mem_of_mem_filter member

/-- The totals depend on the yearly limit alone. -/
theorem limitedTotals_congr {b c : PopularityBounds} (same : b.perYear = c.perYear)
    (rows : List Registration) : limitedTotals plus b rows = limitedTotals plus c rows := by
  simp only [limitedTotals, same]

theorem keeps_iff {filters : Filters} {rows : List Registration} {name : String} :
    keeps plus filters.popularity rows name ↔ filters.limits.isUnbounded ∨
      ∃ e ∈ (limitedTotals plus filters.limits rows).entries,
        filters.limits.total.all (atMost e.2) ∧ e.1.name = name := by
  rw [← isSome_get?_popularNames_iff, ← Bool.or_eq_true]
  cases bounds : filters.popularity with
  | none => simp [keeps, Filters.limits, bounds, PopularityBounds.isUnbounded]
  | some b => simp [keeps, Filters.limits, bounds]

variable {f g : Filters} (relaxes : f.Relaxes g)

include relaxes

/-- A key within the old limits has a total within the new ones. -/
theorem exists_total_of_relaxes {rows : List Registration} {e : NameKey × Nat}
    (member : e ∈ (limitedTotals plus f.limits rows).entries)
    (within : f.limits.total.all (atMost e.2)) :
    ∃ e' ∈ (limitedTotals plus g.limits rows).entries,
      g.limits.total.all (atMost e'.2) ∧ e'.1 = e.1 := by
  rcases relaxes.popularity with ⟨same, raised⟩ | ⟨_, total, raised⟩
  · rw [limitedTotals_congr plus same] at member
    exact ⟨e, member, raised.all_atMost within, rfl⟩
  · -- Years come back and the total grows, but nothing limits it.
    have key : e.1 ∈ (limitedTotals plus f.limits rows).keys := List.mem_map.mpr ⟨e, member, rfl⟩
    obtain ⟨year, sums, quiet, owner⟩ := (mem_keys_limitedTotals plus).mp key
    have key' : e.1 ∈ (limitedTotals plus g.limits rows).keys :=
      (mem_keys_limitedTotals plus).mpr ⟨year, sums, raised.all_atMost quiet, owner⟩
    obtain ⟨e', member', same⟩ := List.mem_map.mp key'
    refine ⟨e', member', ?_, same⟩
    rw [total]
    rfl

/-- A spelling that is kept stays kept under relaxed limits, with other keys added. -/
theorem keeps_of_relaxes {rows : List Registration} {q : NameKey → Bool} {name : String}
    (kept : keeps plus f.popularity (rows.filter fun r => q r.key) name) :
    keeps plus g.popularity rows name := by
  rw [keeps_iff] at kept ⊢
  rcases kept with unbounded | ⟨e, member, within, named⟩
  · exact .inl (relaxes.isUnbounded unbounded)
  · have total := mem_entries_limitedTotals_filter plus member
    obtain ⟨e', member', within', same⟩ := exists_total_of_relaxes plus relaxes total within
    refine .inr ⟨e', member', within', ?_⟩
    rw [same, named]

end Stage

/-! ### Points that stay -/

namespace View

section Relaxed

variable (plus : Nat → Nat → Nat) {f g : Filters} (relaxes : f.Relaxes g)

include relaxes

theorem judged_of_relaxes (rows : List Registration) :
    judged f rows = (judged g rows).filter fun r =>
      SpreadBounds.Admits f.spread (districts (ofKey r.key rows)).card := by
  rw [judged_eq_filter, judged_eq_filter, relaxes.district, List.filter_filter]
  refine List.filter_congr fun r _ => ?_
  rw [Bool.eq_iff_iff, Bool.and_eq_true, decide_eq_true_iff, decide_eq_true_iff]
  exact ⟨fun admitted => ⟨admitted, relaxes.admits_spread admitted⟩, And.left⟩

/-- Narrowing by the stricter filters keeps or drops whole keys of what the others leave. -/
theorem narrowWith_of_relaxes (rows : List Registration) :
    ∃ q : NameKey → Bool,
      narrowWith plus f rows = (narrowWith plus g rows).filter fun r => q r.key := by
  set spread : NameKey → Bool := fun key =>
    SpreadBounds.Admits f.spread (districts (ofKey key rows)).card
  have part : judged f rows = (judged g rows).filter fun r => spread r.key :=
    judged_of_relaxes relaxes rows
  -- Of what the relaxed filters leave, the strict ones keep the keys that they admit themselves.
  refine ⟨fun key => spread key && Stage.keeps plus f.popularity (judged f rows) key.name, ?_⟩
  rw [narrowWith_eq_filter_judged, narrowWith_eq_filter_judged, List.filter_filter, part,
    List.filter_filter]
  refine List.filter_congr fun r _ => ?_
  rw [Bool.eq_iff_iff]
  simp only [Bool.and_eq_true]
  constructor
  · rintro ⟨kept, admitted⟩
    exact ⟨⟨admitted, kept⟩, Stage.keeps_of_relaxes plus relaxes kept⟩
  · rintro ⟨⟨admitted, kept⟩, _⟩
    exact ⟨kept, admitted⟩

theorem survivorsWith_sublist_of_relaxes (rows : List Registration) :
    (survivorsWith plus f rows).Sublist (survivorsWith plus g rows) := by
  obtain ⟨q, part⟩ := narrowWith_of_relaxes plus relaxes rows
  have keys : survivorsWith plus f rows = (survivorsWith plus g rows).filter q := by
    rw [survivorsWith, part]
    exact Tally.keys_gather_filter Registration.key (fun r sum => plus (sum.getD 0) r.weight) q _
  rw [keys]
  exact List.filter_sublist

/-- Relaxing the filters loses no point of the scatter and changes none: the points stay in their
order, each with both of its counts. This holds for every addition. -/
theorem scatterWith_sublist_of_relaxes (registry : Registry) :
    (scatterWith plus registry f).Sublist (scatterWith plus registry g) := by
  have window : f.population registry.registrations = g.population registry.registrations := by
    simp only [Filters.population, relaxes.years]
  have points : ∀ rows, rarityPointWith plus f rows = rarityPointWith plus g rows := by
    intro rows
    funext key
    simp only [rarityPointWith, relaxes.district]
  rw [scatterWith_eq_map_survivorsWith, scatterWith_eq_map_survivorsWith, window, points]
  exact (survivorsWith_sublist_of_relaxes plus relaxes _).map _

end Relaxed

/-- Filters with a limit of the total and both bounds on districts. -/
def strictFilters : Filters :=
  ⟨none, some "A", some ⟨some 9, none⟩, some ⟨some 2, some 3⟩⟩

/-- The same choice with a greater limit, a negative minimum and no maximum. -/
def relaxedFilters : Filters :=
  ⟨none, some "A", some ⟨some 10, none⟩, some ⟨some (-1), none⟩⟩

/-- The point of the strict filters is among those of the relaxed ones. -/
theorem scatterWith_sublist_of_relaxes_sample :
    strictFilters.Relaxes relaxedFilters ∧
    scatterWith wrappingAdd (Registry.ofList sample) strictFilters = [⟨"Alex", .male, 4, 10⟩] ∧
    scatterWith wrappingAdd (Registry.ofList sample) relaxedFilters =
      [⟨"Alex", .male, 4, 10⟩, ⟨"Maria", .female, 10, 10⟩] ∧
    (scatterWith wrappingAdd (Registry.ofList sample) strictFilters).Sublist
      (scatterWith wrappingAdd (Registry.ofList sample) relaxedFilters) :=
  have relaxes : strictFilters.Relaxes relaxedFilters :=
    ⟨rfl, rfl, .of_le (by decide), .lift _, .inl ⟨rfl, .of_le (by decide)⟩⟩
  ⟨relaxes, by decide +kernel, by decide +kernel,
    scatterWith_sublist_of_relaxes wrappingAdd relaxes (Registry.ofList sample)⟩

/-- With a limit of the total, a greater yearly limit loses the point: the second year counts. -/
example :
    scatter (Registry.ofList (sample.take 2)) ⟨none, none, some ⟨some 5, some 5⟩, none⟩ =
      [⟨"Alex", .male, 10, 10⟩] ∧
    scatter (Registry.ofList (sample.take 2)) ⟨none, none, some ⟨some 5, some 6⟩, none⟩ = [] := by
  decide +kernel

end View

end GivenNames
