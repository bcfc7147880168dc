import GivenNames.Proofs.Stages

/-!
What the indices of a registry say of its registrations.

The districts of a registry are those that occur, in order (`mem_districts_ofList`,
`increasing_districts_ofList`). Its span of years is built up year by year: a span that reaches from
the smallest to the greatest of some years does so with one more year taken in (`Fits.extend`), and
so does the span of all years (`fits_yearSpan_ofList`). Main statement: the indices tell what the
stages of districts and years keep of the registrations (`ofList_describes`).
-/

namespace GivenNames

/-! ### Spans of years -/

namespace YearSpan

/-- A span reaches from the smallest to the greatest of some years. -/
structure Spans (span : YearSpan) (years : List Int32) : Prop where
  first : span.first ∈ years
  last : span.last ∈ years
  within : ∀ year ∈ years, span.first ≤ year ∧ year ≤ span.last

/-- There is a span where there are years, and it reaches from the smallest to the greatest. -/
def Fits : Option YearSpan → List Int32 → Prop
  | none, years => years = []
  | some span, years => span.Spans years

variable {span : YearSpan} {years : List Int32}

theorem Spans.ordered (spans : span.Spans years) : span.first ≤ span.last :=
  (spans.within span.first spans.first).2

/-- A span with one more year taken in reaches as far as that year. -/
theorem Spans.extend (spans : span.Spans years) (year : Int32) :
    Fits (extend (some span) year) (years ++ [year]) where
  first := by
    change (if year < span.first then year else span.first) ∈ years ++ [year]
    split
    · exact List.mem_append_right _ (List.mem_singleton_self year)
    · exact List.mem_append_left _ spans.first
  last := by
    change (if span.last < year then year else span.last) ∈ years ++ [year]
    split
    · exact List.mem_append_right _ (List.mem_singleton_self year)
    · exact List.mem_append_left _ spans.last
  within := by
    intro y member
    rw [List.mem_append, List.mem_singleton] at member
    have ordered := spans.ordered
    have inside : y = year ∨ span.first ≤ y ∧ y ≤ span.last :=
      member.symm.imp_right (spans.within y)
    simp only [Int32.le_iff_toInt_le, Int32.lt_iff_toInt_lt] at ordered inside ⊢
    rcases inside with rfl | ⟨below, above⟩
    · constructor
      · split <;> omega
      · split <;> omega
    · constructor
      · split <;> omega
      · split <;> omega

theorem Fits.extend {span : Option YearSpan} (fits : Fits span years) (year : Int32) :
    Fits (YearSpan.extend span year) (years ++ [year]) := by
  cases span with
  | none =>
      obtain rfl : years = [] := fits
      exact ⟨List.mem_singleton_self year, List.mem_singleton_self year, by simp⟩
  | some span => exact Spans.extend fits year

/-- Years that are taken in one after the other keep the span fitting. -/
theorem Fits.foldl_extend {span : Option YearSpan} (fits : Fits span years)
    (rows : List Registration) :
    Fits (rows.foldl (fun span r => YearSpan.extend span r.year) span)
      (years ++ rows.map Registration.year) := by
  induction rows generalizing span years with
  | nil => simpa using fits
  | cons r rows ih => simpa using ih (fits.extend r.year)

end YearSpan

/-- A window that contains two years contains every year between them. -/
theorem YearBounds.contains_of_between {b : YearBounds} {first last year : Int32}
    (first_in : b.contains first) (last_in : b.contains last) (above : first ≤ year)
    (below : year ≤ last) : b.contains year := by
  rw [contains_iff] at first_in last_in ⊢
  rw [Int32.le_iff_toInt_le] at above below
  intro b' here
  constructor
  · intro min bound
    exact Int.le_trans ((first_in b' here).1 min bound) above
  · intro max bound
    exact Int.le_trans below ((last_in b' here).2 max bound)

/-! ### What stages keep -/

namespace Stage

variable {rows : List Registration}

/-- Rows are kept for a district exactly if it occurs among theirs. -/
theorem district_ne_nil_iff {d : String} :
    district (some d) rows ≠ [] ↔ d ∈ rows.map Registration.district := by
  simp [district]

variable {span : YearSpan} (spans : span.Spans (rows.map Registration.year))

include spans

/-- A window keeps all rows exactly if it contains both ends of their span. -/
theorem years_eq_self_iff {b : YearBounds} :
    years (some b) rows = rows ↔ b.contains span.first ∧ b.contains span.last := by
  rw [years, List.filter_eq_self]
  constructor
  · intro kept
    have contained : ∀ year ∈ rows.map Registration.year, b.contains year := by
      simpa using kept
    exact ⟨contained _ spans.first, contained _ spans.last⟩
  · rintro ⟨first, last⟩ r member
    obtain ⟨above, below⟩ := spans.within r.year (List.mem_map_of_mem member)
    exact YearBounds.contains_of_between first last above below

/-- A window that begins after the span or ends before it keeps no row. -/
theorem years_eq_nil_of_apart {b : YearBounds}
    (apart : (∃ min ∈ b.min, span.last < min) ∨ ∃ max ∈ b.max, max < span.first) :
    years (some b) rows = [] := by
  rw [years_eq_filter, List.filter_eq_nil_iff]
  intro r member contained
  obtain ⟨above, below⟩ := spans.within r.year (List.mem_map_of_mem member)
  obtain ⟨least, greatest⟩ := of_decide_eq_true contained b rfl
  simp only [Int32.le_iff_toInt_le, Int32.lt_iff_toInt_lt] at above below apart
  rcases apart with ⟨min, bound, after⟩ | ⟨max, bound, before⟩
  · have := least min bound
    omega
  · have := greatest max bound
    omega

end Stage

/-! ### The indices of a registry -/

namespace Registry

theorem mem_districts_ofList {registrations : List Registration} {d : String} :
    d ∈ (ofList registrations).districts ↔ d ∈ registrations.map Registration.district := by
  have ordered := Tally.ordered_labels Registration.district registrations
  exact ordered.mem_keys.trans (Tally.isSome_get?_labels Registration.district registrations d)

/-- Districts stand in the order of their texts, code point by code point. -/
theorem increasing_districts_ofList (registrations : List Registration) :
    (ofList registrations).districts.Pairwise (· < ·) :=
  (Tally.ordered_labels Registration.district registrations).pairwise_keys.imp
    fun less => compareOfLessAndEq_eq_lt.mp less

theorem fits_yearSpan_ofList (registrations : List Registration) :
    YearSpan.Fits (ofList registrations).yearSpan (registrations.map Registration.year) := by
  have none : YearSpan.Fits none [] := rfl
  exact none.foldl_extend registrations

theorem yearSpan_ofList_eq_none_iff {registrations : List Registration} :
    (ofList registrations).yearSpan = none ↔ registrations = [] := by
  have fits := fits_yearSpan_ofList registrations
  constructor
  · intro none
    rw [none] at fits
    exact List.map_eq_nil_iff.mp fits
  · rintro rfl
    rfl

theorem spans_of_mem_yearSpan {registrations : List Registration} {span : YearSpan}
    (known : span ∈ (ofList registrations).yearSpan) :
    span.Spans (registrations.map Registration.year) := by
  have fits := fits_yearSpan_ofList registrations
  rw [Option.mem_def.mp known] at fits
  exact fits

/-- A registry keeps its registrations in order. Its districts increase, and are those for which
any row is kept. It has no span of years exactly if it is empty; otherwise the span is one of years
that occur, a window keeps all rows exactly if it contains both its ends, and none if it begins
after the last year or ends before the first. The rows at its head are its first ones. -/
theorem ofList_describes (registrations : List Registration) :
    let registry := ofList registrations
    registry.registrations = registrations ∧
      registry.districts.Pairwise (· < ·) ∧
      (∀ d, Stage.district (some d) registrations ≠ [] ↔ d ∈ registry.districts) ∧
      (registry.yearSpan = none ↔ registrations = []) ∧
      (∀ span ∈ registry.yearSpan,
        span.first ≤ span.last ∧
          (∃ r ∈ registrations, r.year = span.first) ∧
          (∃ r ∈ registrations, r.year = span.last) ∧
          ∀ b : YearBounds,
            (Stage.years (some b) registrations = registrations ↔
                b.contains span.first ∧ b.contains span.last) ∧
              ((∃ min ∈ b.min, span.last < min) ∨ (∃ max ∈ b.max, max < span.first) →
                Stage.years (some b) registrations = [])) ∧
      ∀ n, registry.head n <+: registrations ∧
        (registry.head n).length = min n registrations.length := by
  refine ⟨rfl, increasing_districts_ofList registrations, ?_, yearSpan_ofList_eq_none_iff, ?_, ?_⟩
  · intro d
    exact Stage.district_ne_nil_iff.trans mem_districts_ofList.symm
  · intro span known
    have spans := spans_of_mem_yearSpan known
    refine ⟨spans.ordered, List.mem_map.mp spans.first, List.mem_map.mp spans.last, ?_⟩
    intro b
    exact ⟨Stage.years_eq_self_iff spans, Stage.years_eq_nil_of_apart spans⟩
  · intro n
    exact ⟨List.take_prefix n registrations, List.length_take⟩

theorem ofList_describes_sample :
    ⟨2000, 2001⟩ ∈ (ofList Population.sample).yearSpan ∧
      Stage.years (some ⟨some 2000, none⟩) Population.sample = Population.sample ∧
      Stage.years (some ⟨some 2001, some 2001⟩) Population.sample ≠ Population.sample ∧
      Stage.years (some ⟨none, some 1999⟩) Population.sample = [] := by
  have known : ⟨2000, 2001⟩ ∈ (ofList Population.sample).yearSpan := rfl
  obtain ⟨-, -, -, -, spanned, -⟩ := ofList_describes Population.sample
  obtain ⟨-, -, -, kept⟩ := spanned _ known
  refine ⟨known, (kept _).1.mpr (by decide), ?_, (kept _).2 (.inr ⟨1999, rfl, by decide⟩)⟩
  intro same
  exact absurd ((kept _).1.mp same) (by decide)

end Registry

end GivenNames
