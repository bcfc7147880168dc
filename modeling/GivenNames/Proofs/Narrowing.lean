import GivenNames.Proofs.Judging

/-!
Narrowing keeps or drops a key as a whole.

The spread stage judges keys and the popularity stage judges spellings, so behind the choice of a
district nothing is left of a dropped key and everything of a kept one (`ofKey_narrowWith`). The
keys that are left are the survivors of the filters (`mem_map_key_narrowWith`). The popularity stage
leaves out single years only while it judges, never from the rows it keeps.

An addition that is exact up to the count of a registry gives every view the exact counts; words are
added as words, whatever they come to (`getD_get?_countsWith_wrappingAdd`).
-/

namespace GivenNames

open Population

namespace Filters

/-- A key passes the stages that judge keys and spellings. -/
def Passes (filters : Filters) (rows : List Registration) (key : NameKey) : Prop :=
  SpreadBounds.Admits filters.spread (districts (ofKey key rows)).card ∧
    PopularityBounds.AdmitsSpelling filters.popularity
      (within filters.district (Stage.spread filters.spread rows)) key.name

instance (filters : Filters) (rows : List Registration) (key : NameKey) :
    Decidable (filters.Passes rows key) :=
  inferInstanceAs (Decidable (_ ∧ _))

end Filters

namespace View

theorem narrowWith_eq_filter (filters : Filters) (rows : List Registration) :
    narrowWith (· + ·) filters rows =
      (within filters.district rows).filter fun r => filters.Passes rows r.key := by
  rw [narrowWith_eq_filter_leaves]
  refine List.filter_congr fun r _ => ?_
  rw [leaves, Bool.eq_iff_iff, Bool.and_eq_true, Stage.keeps_iff_admitsSpelling,
    decide_eq_true_iff, decide_eq_true_iff, judged, Stage.district_eq_within, Filters.Passes]

/-- A key that passes keeps its registrations in the district, and any other key loses all. -/
theorem ofKey_narrowWith (filters : Filters) (rows : List Registration) (key : NameKey) :
    ofKey key (narrowWith (· + ·) filters rows) =
      if filters.Passes rows key then within filters.district (ofKey key rows) else [] := by
  rw [narrowWith_eq_filter,
    ofKey_filter_key (fun key => decide (filters.Passes rows key)), ofKey_within]
  simp

end View

namespace PopularityBounds

theorem not_admits_nil (b : PopularityBounds) : ¬ b.Admits [] := by
  simp [Admits, quietYears]

end PopularityBounds

namespace Filters

theorem exists_registered_iff {filters : Filters} {rows : List Registration} {key : NameKey} :
    (∃ r ∈ rows, r.key = key ∧ ∀ d ∈ filters.district, r.district = d) ↔
      within filters.district (ofKey key rows) ≠ [] := by
  constructor
  · rintro ⟨r, member, same, local'⟩
    exact List.ne_nil_of_mem (mem_within.mpr ⟨mem_ofKey.mpr ⟨member, same⟩, local'⟩)
  · intro some
    obtain ⟨r, member⟩ := List.exists_mem_of_ne_nil _ some
    obtain ⟨ofKey, local'⟩ := mem_within.mp member
    obtain ⟨inRows, same⟩ := mem_ofKey.mp ofKey
    exact ⟨r, inRows, same, local'⟩

/-- Behind the spread stage and the choice of a district, a key has its registrations there if the
spread bounds admit it, and none otherwise. -/
theorem ofKey_within_spread (filters : Filters) (rows : List Registration) (key : NameKey) :
    ofKey key (within filters.district (Stage.spread filters.spread rows)) =
      if SpreadBounds.Admits filters.spread (districts (ofKey key rows)).card then
        within filters.district (ofKey key rows)
      else [] := by
  rw [ofKey_within, Stage.spread_eq_filter, ofKey_filter_key (fun key =>
    decide (SpreadBounds.Admits filters.spread (districts (ofKey key rows)).card))]
  split <;> simp_all [within]

/-- The popularity stage judges a spelling by the keys that are eligible. -/
theorem admitsSpelling_iff {filters : Filters} {rows : List Registration} {name : String} :
    PopularityBounds.AdmitsSpelling filters.popularity
        (within filters.district (Stage.spread filters.spread rows)) name ↔
      PopularityBounds.Unlimited filters.popularity ∨
        ∃ g : Gender, Eligible filters rows ⟨name, g⟩ ∧
          ∀ b ∈ filters.popularity, b.Admits (within filters.district (ofKey ⟨name, g⟩ rows)) := by
  cases limits : filters.popularity with
  | none => simp [PopularityBounds.AdmitsSpelling, PopularityBounds.Unlimited]
  | some b =>
      refine or_congr_right (exists_congr fun g => ?_)
      simp only [Option.mem_def, Option.some.injEq, forall_eq', ofKey_within_spread]
      constructor
      · intro admitted
        split at admitted
        · rename_i spread
          refine ⟨⟨exists_registered_iff.mpr fun empty => ?_, spread⟩, admitted⟩
          rw [empty] at admitted
          exact b.not_admits_nil admitted
        · exact absurd admitted b.not_admits_nil
      · rintro ⟨eligible, admitted⟩
        rwa [if_pos eligible.spread]

theorem passes_iff {filters : Filters} {rows : List Registration} {key : NameKey} :
    filters.Passes rows key ↔
      SpreadBounds.Admits filters.spread (districts (ofKey key rows)).card ∧
        (PopularityBounds.Unlimited filters.popularity ∨
          ∃ g : Gender, Eligible filters rows ⟨key.name, g⟩ ∧
            ∀ b ∈ filters.popularity,
              b.Admits (within filters.district (ofKey ⟨key.name, g⟩ rows))) :=
  and_congr_right fun _ => admitsSpelling_iff

theorem Survives.passes {filters : Filters} {rows : List Registration} {key : NameKey}
    (survives : filters.Survives rows key) : filters.Passes rows key :=
  passes_iff.mpr ⟨survives.spread, survives.popularity⟩

end Filters

namespace View

/-- The keys that are left are the survivors. -/
theorem mem_map_key_narrowWith {filters : Filters} {rows : List Registration} {key : NameKey} :
    key ∈ (narrowWith (· + ·) filters rows).map Registration.key ↔ filters.Survives rows key := by
  rw [Tally.mem_map_iff_filter_ne_nil]
  change ofKey key _ ≠ [] ↔ _
  rw [ofKey_narrowWith]
  constructor
  · intro some
    split at some
    · rename_i passes
      obtain ⟨spread, popularity⟩ := Filters.passes_iff.mp passes
      exact ⟨⟨Filters.exists_registered_iff.mpr some, spread⟩, popularity⟩
    · exact absurd rfl some
  · intro survives
    rw [if_pos survives.passes]
    exact Filters.exists_registered_iff.mp survives.registered

/-- A survivor keeps all of its registrations in the district. -/
theorem ofKey_narrowWith_of_survives {filters : Filters} {rows : List Registration} {key : NameKey}
    (survives : filters.Survives rows key) :
    ofKey key (narrowWith (· + ·) filters rows) = within filters.district (ofKey key rows) :=
  ofKey_narrowWith_of_mem (· + ·) filters rows (mem_map_key_narrowWith.mpr survives)

/-- The keys that are left, in key order. -/
def survivors (filters : Filters) (rows : List Registration) : List NameKey :=
  (countsWith (· + ·) (narrowWith (· + ·) filters rows)).keys

theorem mem_survivors {filters : Filters} {rows : List Registration} {key : NameKey} :
    key ∈ survivors filters rows ↔ filters.Survives rows key :=
  (Tally.mem_keys_sumBy Registration.key Registration.weight).trans mem_map_key_narrowWith

theorem pairwise_survivors (filters : Filters) (rows : List Registration) :
    (survivors filters rows).Pairwise NameKey.Before :=
  pairwise_survivorsWith (· + ·) filters rows

/-- The nationwide count of a key, zero where it has no registrations. -/
theorem getD_get?_countsWith (rows : List Registration) (key : NameKey) :
    ((countsWith (· + ·) rows).get? key).getD 0 = weight (ofKey key rows) :=
  Tally.getD_get?_sumBy Registration.key Registration.weight rows key

/-- The map with the given counts. -/
def mapOf (name : String) (counts : Tally String Nat) : DistrictMap :=
  ⟨name, counts, counts.values.foldl max 0⟩

/-! ### Views with an addition of bounded range -/

theorem exactUpTo_wrappingAdd {limit : Nat} (fits : limit < UInt64.size) :
    Tally.ExactUpTo limit wrappingAdd :=
  fun _ _ within => Nat.mod_eq_of_lt (within.trans_lt fits)

section Exact

variable {plus : Nat → Nat → Nat}

theorem countsWith_eq {rows : List Registration} (exact : Tally.ExactUpTo (weight rows) plus) :
    countsWith plus rows = countsWith (· + ·) rows :=
  Tally.sumWith_eq_sumBy Registration.weight exact _ le_rfl

theorem narrowWith_eq {rows : List Registration} (exact : Tally.ExactUpTo (weight rows) plus)
    (filters : Filters) : narrowWith plus filters rows = narrowWith (· + ·) filters rows := by
  refine Stage.popularityWith_eq (exact.mono ?_) _
  rw [Stage.district_eq_within, Stage.spread_eq_filter]
  exact (weight_filter_le _ _).trans (weight_filter_le _ _)

theorem weight_narrowWith_le (filters : Filters) (rows : List Registration) :
    weight (narrowWith (· + ·) filters rows) ≤ weight rows := by
  rw [narrowWith_eq_filter]
  exact (weight_filter_le _ _).trans (weight_filter_le _ _)

theorem weight_years_le (bounds : Option YearBounds) (rows : List Registration) :
    weight (Stage.years bounds rows) ≤ weight rows := by
  rw [Stage.years_eq_filter]
  exact weight_filter_le _ _

variable {registry : Registry} (exact : Tally.ExactUpTo (weight registry.registrations) plus)

include exact

theorem candidatesWith_eq (filters : Filters) :
    candidatesWith plus registry filters = candidatesWith (· + ·) registry filters := by
  have window := exact.mono (weight_years_le filters.years registry.registrations)
  have narrowed := window.mono (weight_narrowWith_le filters _)
  simp only [candidatesWith, countsWith_eq window, narrowWith_eq window, countsWith_eq narrowed]

theorem scatterWith_eq (filters : Filters) :
    scatterWith plus registry filters = scatter registry filters := by
  have window := exact.mono (weight_years_le filters.years registry.registrations)
  have narrowed := window.mono (weight_narrowWith_le filters _)
  have local' := window.mono (weight_filter_le
    (fun r => decide (∀ d ∈ filters.district, r.district = d)) _)
  rw [← within, ← Stage.district_eq_within] at local'
  simp only [scatter, scatterWith, countsWith_eq window, narrowWith_eq window,
    countsWith_eq narrowed, countsWith_eq local']

theorem trendWith_eq (name : String) (years : Option YearBounds) (district : Option String) :
    trendWith plus registry name years district = trend registry name years district := by
  have fits : weight (Stage.name name (Stage.district district
      (Stage.years years registry.registrations))) ≤ weight registry.registrations := by
    rw [Stage.district_eq_within]
    exact (weight_filter_le _ _).trans ((weight_filter_le _ _).trans (weight_years_le _ _))
  exact congrArg (YearTrend.mk name) (Tally.sumWith_eq_sumBy Registration.weight exact _ fits)

theorem mapWith_eq (name : String) (years : Option YearBounds) :
    mapWith plus registry name years = map registry name years := by
  have fits : weight (Stage.name name (Stage.years years registry.registrations)) ≤
      weight registry.registrations :=
    (weight_filter_le _ _).trans (weight_years_le _ _)
  exact congrArg (mapOf name)
    (Tally.sumWith_eq_sumBy Registration.weight exact Registration.district fits)

end Exact

end View

end GivenNames
