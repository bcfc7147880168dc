import GivenNames.Proofs.Scatter

/-!
Names do not interfere.

Every stage and every tally of keys can be restricted to some spellings: narrowing the registrations
of those spellings gives what narrowing leaves of them (`narrowWith_spelled`). So the points and the
candidates of a spelling are those of the registry that holds this spelling alone
(`scatterWith_spelled`, `candidatesWith_spelled`). Main statement: registries with the same
registrations of a spelling show the same points of it, and the same rows wherever the table lists
it (`shown_of_sameSpelling`). The genders of one spelling do influence each other.
-/

namespace GivenNames

open Population

/-! ### Registrations of some spellings -/

namespace Population

/-- The registrations of the spellings in question. -/
def spelled (p : String → Bool) (rows : List Registration) : List Registration :=
  rows.filter fun r => p r.name

variable {p : String → Bool} (rows : List Registration)

theorem ofKey_spelled {key : NameKey} (wanted : p key.name) :
    ofKey key (spelled p rows) = ofKey key rows := by
  have whole := ofKey_filter_key (fun key => p key.name) key rows
  rwa [if_pos wanted] at whole

/-- A filter whose verdict on these spellings is the same before and after they are chosen. -/
theorem filter_spelled {c c' : Registration → Bool} (same : ∀ r, p r.name → c' r = c r) :
    (spelled p rows).filter c' = spelled p (rows.filter c) := by
  rw [spelled, spelled, List.filter_filter, List.filter_filter]
  refine List.filter_congr fun r _ => ?_
  by_cases wanted : p r.name
  · rw [same r wanted, Bool.and_comm]
  · simp [wanted]

theorem within_spelled (district : Option String) :
    within district (spelled p rows) = spelled p (within district rows) :=
  filter_spelled rows fun _ _ => rfl

theorem population_spelled (filters : Filters) :
    filters.population (spelled p rows) = spelled p (filters.population rows) :=
  filter_spelled rows fun _ _ => rfl

end Population

/-! ### Stages on some spellings -/

namespace Stage

variable (plus : Nat → Nat → Nat) (b : PopularityBounds) (rows : List Registration)

/-- The yearly sums of some keys come from the registrations of those keys. -/
theorem entries_yearSums_filter (q : NameKey → Bool) :
    (yearSums plus (rows.filter fun r => q r.key)).entries =
      (yearSums plus rows).entries.filter fun e => q e.1.second :=
  Tally.entries_gather_filter (fun r : Registration => (⟨r.year, r.key⟩ : Compound Int32 NameKey))
    (fun r sum => plus (sum.getD 0) r.weight) (fun k => q k.second) rows

/-- The totals of some keys come from the registrations of those keys. -/
theorem entries_limitedTotals_filter (q : NameKey → Bool) :
    (limitedTotals plus b (rows.filter fun r => q r.key)).entries =
      (limitedTotals plus b rows).entries.filter fun e => q e.1 := by
  have quiet : (yearSums plus (rows.filter fun r => q r.key)).entries.filter
      (fun e => b.perYear.all (atMost e.2)) =
        ((yearSums plus rows).entries.filter fun e => b.perYear.all (atMost e.2)).filter
          fun e => q e.1.second := by
    rw [entries_yearSums_filter, List.filter_filter, List.filter_filter]
    simp only [Bool.and_comm]
  unfold limitedTotals
  simp only [quiet]
  exact Tally.entries_gather_filter (fun e : Compound Int32 NameKey × Nat => e.1.second)
    (fun e sum => plus (sum.getD 0) e.2) q _

variable {p : String → Bool}

/-- Whether a spelling is kept depends on its own registrations. -/
theorem keeps_spelled {name : String} (wanted : p name) (bounds : Option PopularityBounds) :
    keeps plus bounds (spelled p rows) name = keeps plus bounds rows name := by
  have popular : ∀ b : PopularityBounds,
      ((popularNames plus b (spelled p rows)).get? name).isSome =
        ((popularNames plus b rows).get? name).isSome := by
    intro b
    have totals := entries_limitedTotals_filter plus b rows fun key => p key.name
    rw [Bool.eq_iff_iff, isSome_get?_popularNames_iff, isSome_get?_popularNames_iff, spelled]
    change (∃ e ∈ (limitedTotals plus b (rows.filter fun r => p r.key.name)).entries, _) ↔ _
    -- Both genders of a wanted spelling keep their totals, so either can still carry it.
    rw [totals]
    constructor
    · rintro ⟨e, member, limited, rfl⟩
      exact ⟨e, List.mem_of_mem_filter member, limited, rfl⟩
    · rintro ⟨e, member, limited, rfl⟩
      exact ⟨e, List.mem_filter.mpr ⟨member, wanted⟩, limited, rfl⟩
  simp only [keeps, popular]

theorem popularityWith_spelled (bounds : Option PopularityBounds) :
    popularityWith plus bounds (spelled p rows) =
      spelled p (popularityWith plus bounds rows) := by
  rw [popularityWith_eq_filter, popularityWith_eq_filter]
  exact filter_spelled rows fun r wanted => keeps_spelled plus rows wanted bounds

end Stage

/-! ### Views of some spellings -/

namespace View

variable (plus : Nat → Nat → Nat) (filters : Filters) (rows : List Registration)
  {p : String → Bool}

theorem judged_spelled : judged filters (spelled p rows) = spelled p (judged filters rows) := by
  rw [judged_eq_filter, judged_eq_filter, within_spelled]
  refine filter_spelled _ fun r wanted => ?_
  rw [ofKey_spelled rows wanted]

/-- Narrowing the registrations of some spellings gives what narrowing leaves of them. -/
theorem narrowWith_spelled :
    narrowWith plus filters (spelled p rows) = spelled p (narrowWith plus filters rows) := by
  change Stage.popularityWith plus _ (judged filters (spelled p rows)) = _
  rw [judged_spelled, Stage.popularityWith_spelled]
  rfl

theorem survivorsWith_spelled :
    survivorsWith plus filters (spelled p rows) =
      (survivorsWith plus filters rows).filter fun key => p key.name := by
  rw [survivorsWith, narrowWith_spelled]
  exact Tally.keys_gather_filter Registration.key (fun r sum => plus (sum.getD 0) r.weight)
    (fun key => p key.name) _

theorem get?_countsWith_spelled {key : NameKey} (wanted : p key.name) :
    (countsWith plus (spelled p rows)).get? key = (countsWith plus rows).get? key :=
  Tally.get?_gather_filter Registration.key (fun r sum => plus (sum.getD 0) r.weight)
    (p := fun key : NameKey => p key.name) wanted rows

theorem rarityPointWith_spelled {key : NameKey} (wanted : p key.name) :
    rarityPointWith plus filters (spelled p rows) key = rarityPointWith plus filters rows key := by
  simp only [rarityPointWith, within_spelled, get?_countsWith_spelled plus _ wanted]

theorem rankedNameWith_spelled {key : NameKey} (wanted : p key.name) :
    rankedNameWith plus filters (spelled p rows) key = rankedNameWith plus filters rows key := by
  simp only [rankedNameWith, narrowWith_spelled, ofKey_spelled rows wanted,
    get?_countsWith_spelled plus _ wanted]

/-- Whatever is shown of the keys that are left: where it depends on the registrations of their own
spelling, some spellings are shown as they are shown alone. -/
theorem map_survivorsWith_spelled {α : Type} (name : α → String)
    (shown : List Registration → NameKey → α) (named : ∀ key, name (shown rows key) = key.name)
    (same : ∀ key, p key.name → shown (spelled p rows) key = shown rows key) :
    (survivorsWith plus filters (spelled p rows)).map (shown (spelled p rows)) =
      ((survivorsWith plus filters rows).map (shown rows)).filter fun x => p (name x) := by
  rw [survivorsWith_spelled, List.filter_map]
  simp only [Function.comp_def, named]
  refine List.map_congr_left fun key member => ?_
  exact same key (List.mem_filter.mp member).2

/-- The points of some spellings are the points of the registry that holds only those. -/
theorem scatterWith_spelled (registry : Registry) :
    scatterWith plus (.ofList (spelled p registry.registrations)) filters =
      (scatterWith plus registry filters).filter fun point => p point.name := by
  rw [scatterWith_eq_map_survivorsWith plus filters registry,
    ← map_survivorsWith_spelled plus filters _ RarityPoint.name (rarityPointWith plus filters)
      (fun _ => rfl) (fun _ wanted => rarityPointWith_spelled plus filters _ wanted),
    ← population_spelled]
  exact scatterWith_eq_map_survivorsWith plus filters _

/-- The candidates of some spellings are the candidates of the registry that holds only those. -/
theorem candidatesWith_spelled (registry : Registry) :
    candidatesWith plus (.ofList (spelled p registry.registrations)) filters =
      (candidatesWith plus registry filters).filter fun row => p row.name := by
  rw [candidatesWith_eq_map_survivorsWith plus filters registry,
    ← map_survivorsWith_spelled plus filters _ RankedName.name (rankedNameWith plus filters)
      (fun _ => rfl) (fun _ wanted => rankedNameWith_spelled plus filters _ wanted),
    ← population_spelled]
  exact candidatesWith_eq_map_survivorsWith plus filters _

/-! ### Registries that share a spelling -/

/-- Two registries with the same registrations of a spelling show the same points of it. Wherever
both tables list a key of this spelling, they list it with the same counts. This holds for every
addition, so no sum has to fit into a word. -/
theorem shown_of_sameSpelling {a b : Registry} {name : String}
    (same : a.registrations.filter (fun r => r.name = name) =
      b.registrations.filter fun r => r.name = name) :
    ((scatterWith plus a filters).filter (fun p => p.name = name) =
      (scatterWith plus b filters).filter fun p => p.name = name) ∧
    ∀ r ∈ tableWith plus a filters, ∀ s ∈ tableWith plus b filters,
      r.name = name → s.name = name → r.gender = s.gender → r = s := by
  have alone : spelled (· = name) a.registrations = spelled (· = name) b.registrations := same
  constructor
  · have points := scatterWith_spelled (p := (· = name)) plus filters a
    rw [alone, scatterWith_spelled] at points
    exact points.symm
  · -- The cut may drop the key from one of the tables, so the candidates are compared.
    intro r listed s listed' named named' gender
    have rows := candidatesWith_spelled (p := (· = name)) plus filters a
    rw [alone, candidatesWith_spelled] at rows
    have candidate := mem_candidatesWith_of_mem_tableWith plus filters listed
    have shared : r ∈ (candidatesWith plus b filters).filter fun row => row.name = name := by
      rw [rows]
      exact List.mem_filter.mpr ⟨candidate, decide_eq_true named⟩
    exact eq_of_mem_candidatesWith plus filters (List.mem_of_mem_filter shared)
      (mem_candidatesWith_of_mem_tableWith plus filters listed') (named.trans named'.symm) gender

/-- The first spelling of the sample among other neighbours, whose counts go beyond a word. -/
def crowdSample : List Registration :=
  ⟨2000, "A", .male, "Jonas", 18446744073709551615⟩ :: ⟨2001, "C", .male, "Jonas", 7⟩ ::
    sample.take 3

/-- Its row and its point are the same there. -/
theorem shown_of_sameSpelling_crowdSample :
    let a := Registry.ofList sample
    let b := Registry.ofList crowdSample
    (a.registrations.filter (fun r => r.name = "Alex") =
      b.registrations.filter fun r => r.name = "Alex") ∧
    (scatterWith wrappingAdd a Filters.sampleFilters).filter (fun p => p.name = "Alex") =
      [⟨"Alex", .male, 4, 10⟩] ∧
    (⟨"Alex", .male, 4, 2, 10⟩ ∈ tableWith wrappingAdd a Filters.sampleFilters) ∧
    (⟨"Alex", .male, 4, 2, 10⟩ ∈ tableWith wrappingAdd b Filters.sampleFilters) ∧
    ((scatterWith wrappingAdd a Filters.sampleFilters).filter (fun p => p.name = "Alex") =
      (scatterWith wrappingAdd b Filters.sampleFilters).filter fun p => p.name = "Alex") ∧
    ∀ s ∈ tableWith wrappingAdd b Filters.sampleFilters, s.name = "Alex" → s.gender = .male →
      s = ⟨"Alex", .male, 4, 2, 10⟩ := by
  intro a b
  have same : a.registrations.filter (fun r => r.name = "Alex") =
      b.registrations.filter fun r => r.name = "Alex" := by decide
  have listed : (⟨"Alex", .male, 4, 2, 10⟩ : RankedName) ∈
      tableWith wrappingAdd a Filters.sampleFilters := by decide +kernel
  obtain ⟨points, rows⟩ := shown_of_sameSpelling wrappingAdd Filters.sampleFilters same
  refine ⟨same, by decide +kernel, listed, by decide +kernel, points, ?_⟩
  intro s listed' named gender
  exact (rows _ listed s listed' rfl named gender.symm).symm

end View

end GivenNames
