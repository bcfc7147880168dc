import GivenNames.Proofs.Narrowing
import GivenNames.Request

/-!
Sums on the way to an answer.

An answer is made by loops that add the weight of each row to the sum of its key. Such a loop is
looked at before its first row and after each of its rows (`Tally.sumStates`). Every row is added to
one sum alone, so with exact addition the sums held at one time are together at most the weights of
all rows, and an addition that is exact up to there passes through the same sums
(`exactWithin_sumStates`). The totals of the popularity stage add up yearly sums once more, each of
them in one total. Main statement: where the counts of a registry add up to a word, words pass
through the exact sums at every step of every loop of a request, none of them greater than the count
of the registry, and give the exact answer (`answer_eq_exact`).
-/

namespace GivenNames

open Population

/-! ### Loops of additions -/

namespace Tally

open Std

/-- States that are the exact ones, in each of which the sums are together within a limit. -/
structure ExactWithin (limit : Nat) (states exact : List (List Nat)) : Prop where
  same : states = exact
  within : ∀ state ∈ exact, state.sum ≤ limit

theorem ExactWithin.nil (limit : Nat) : ExactWithin limit [] [] :=
  ⟨rfl, by simp⟩

theorem ExactWithin.append {limit : Nat} {states states' exact exact' : List (List Nat)}
    (first : ExactWithin limit states exact) (second : ExactWithin limit states' exact') :
    ExactWithin limit (states ++ states') (exact ++ exact') where
  same := by rw [first.same, second.same]
  within := by
    intro state member
    rcases List.mem_append.mp member with here | here
    · exact first.within state here
    · exact second.within state here

variable {K ρ : Type} [Ord K]

/-- The sums that a loop holds: before its first row, and after each of its rows. -/
def sumStates (plus : Nat → Nat → Nat) (key : ρ → K) (weight : ρ → Nat) (rows : List ρ) :
    List (List Nat) :=
  (rows.scanl (fun t r => t.alter (key r) fun sum => plus (sum.getD 0) (weight r)) empty).map values

variable (plus : Nat → Nat → Nat) (key : ρ → K) (weight : ρ → Nat) (rows : List ρ)

/-- After some rows, a loop holds what it would give for these rows alone. -/
theorem sumStates_eq_map_inits :
    sumStates plus key weight rows =
      rows.inits.map fun seen => (sumWith plus key weight seen).values := by
  have states : ∀ (step : Tally K Nat → ρ → Tally K Nat) (t : Tally K Nat),
      rows.scanl step t = rows.inits.map fun seen => seen.foldl step t := by
    intro step
    induction rows with
    | nil => exact fun _ => rfl
    | cons r rows ih => simp [List.scanl_cons, ih, Function.comp_def]
  rw [sumStates, states, List.map_map]
  rfl

/-- The last of the states is what the loop gives. -/
theorem getLast?_sumStates :
    (sumStates plus key weight rows).getLast? = some (sumWith plus key weight rows).values := by
  have last : rows.inits.getLast? = some rows := by
    simp [List.getLast?_eq_getElem?]
  rw [sumStates_eq_map_inits, List.getLast?_map, last, Option.map_some]

variable [LawfulEqOrd K] [TransOrd K] [DecidableEq K] {plus rows}

/-- An addition that is exact up to the weights of all rows passes through the exact sums, and those
held at one time are together at most these weights. -/
theorem exactWithin_sumStates {limit : Nat} (exact : ExactUpTo limit plus)
    (fits : (rows.map weight).sum ≤ limit) :
    ExactWithin limit (sumStates plus key weight rows) (sumStates (· + ·) key weight rows) := by
  have part : ∀ seen ∈ rows.inits, (seen.map weight).sum ≤ limit := by
    intro seen here
    have sub : seen.Sublist rows := ((List.mem_inits seen rows).mp here).sublist
    exact ((sub.map weight).sum_le_sum fun _ _ => Nat.zero_le _).trans fits
  rw [sumStates_eq_map_inits, sumStates_eq_map_inits]
  constructor
  · apply List.map_congr_left
    intro seen here
    exact congrArg values (sumWith_eq_sumBy weight exact key (part seen here))
  · intro state member
    obtain ⟨seen, here, rfl⟩ := List.mem_map.mp member
    calc (sumBy key weight seen).values.sum
        = (seen.map weight).sum := sum_values_sumBy key weight seen
      _ ≤ limit := part seen here

end Tally

open Tally (ExactWithin ExactUpTo)

/-! ### Loops of the popularity stage -/

namespace Stage

/-- The sums that the popularity stage passes through: those of each year and key, then the totals
of the yearly sums within the yearly limit. -/
def popularityStates (plus : Nat → Nat → Nat) (bounds : Option PopularityBounds)
    (rows : List Registration) : List (List Nat) :=
  match bounds with
  | none => []
  | some b =>
    if b.isUnbounded then []
    else
      Tally.sumStates plus (fun r => (⟨r.year, r.key⟩ : Compound Int32 NameKey))
          Registration.weight rows ++
        Tally.sumStates plus (fun e : Compound Int32 NameKey × Nat => e.1.second) Prod.snd
          ((yearSums plus rows).entries.filter fun e => b.perYear.all (atMost e.2))

theorem exactWithin_popularityStates {limit : Nat} {plus : Nat → Nat → Nat}
    {rows : List Registration} (exact : ExactUpTo limit plus) (fits : weight rows ≤ limit)
    (bounds : Option PopularityBounds) :
    ExactWithin limit (popularityStates plus bounds rows)
      (popularityStates (· + ·) bounds rows) := by
  cases bounds with
  | none => exact .nil limit
  | some b =>
      by_cases unbounded : b.isUnbounded
      · simp only [popularityStates, if_pos unbounded]
        exact .nil limit
      · -- The second loop reads what the first one made, which is exact.
        simp only [popularityStates, if_neg unbounded, yearSums_eq (exact.mono fits)]
        have yearly := Tally.exactWithin_sumStates
          (fun r : Registration => (⟨r.year, r.key⟩ : Compound Int32 NameKey))
          Registration.weight exact fits
        have totals := Tally.exactWithin_sumStates
          (fun e : Compound Int32 NameKey × Nat => e.1.second) Prod.snd exact
          ((sum_limitedSums_le b rows).trans fits)
        exact yearly.append totals

end Stage

/-! ### Loops of a request -/

namespace View

/-- The sums that the counts of each key pass through. -/
def countsStates (plus : Nat → Nat → Nat) (rows : List Registration) : List (List Nat) :=
  Tally.sumStates plus Registration.key Registration.weight rows

/-- The sums that narrowing and then counting what is left pass through. The popularity stage alone
adds up while rows are narrowed. -/
def narrowStates (plus : Nat → Nat → Nat) (filters : Filters) (yearRows : List Registration) :
    List (List Nat) :=
  Stage.popularityStates plus filters.popularity (judged filters yearRows) ++
    countsStates plus (narrowWith plus filters yearRows)

section

variable {limit : Nat} {plus : Nat → Nat → Nat} {rows : List Registration}

theorem exactWithin_countsStates (exact : ExactUpTo limit plus) (fits : weight rows ≤ limit) :
    ExactWithin limit (countsStates plus rows) (countsStates (· + ·) rows) :=
  Tally.exactWithin_sumStates Registration.key Registration.weight exact fits

theorem exactWithin_narrowStates (exact : ExactUpTo limit plus) (fits : weight rows ≤ limit)
    (filters : Filters) :
    ExactWithin limit (narrowStates plus filters rows) (narrowStates (· + ·) filters rows) := by
  have judgedFits : weight (judged filters rows) ≤ limit := by
    rw [judged_eq_filter]
    exact ((weight_filter_le _ _).trans (weight_filter_le _ _)).trans fits
  have narrowFits := (weight_narrowWith_le filters rows).trans fits
  unfold narrowStates
  rw [narrowWith_eq (exact.mono fits)]
  exact (Stage.exactWithin_popularityStates exact judgedFits _).append
    (exactWithin_countsStates exact narrowFits)

end

end View

namespace Request

open View

/-- The answer to a request, counts being added with `plus`. -/
def answerWith (plus : Nat → Nat → Nat) (registry : Registry) : Request → Answer
  | .table filters => .table (tableWith plus registry filters)
  | .trend name years district => .trend (trendWith plus registry name years district)
  | .scatter filters => .scatter (scatterWith plus registry filters)
  | .map name years => .map (mapWith plus registry name years)

/-- The sums that a request passes through on the way to its answer, loop after loop. -/
def sumStates (plus : Nat → Nat → Nat) (registry : Registry) : Request → List (List Nat)
  | .table filters =>
    let yearRows := Stage.years filters.years registry.registrations
    countsStates plus yearRows ++ narrowStates plus filters yearRows
  | .trend name years district =>
    Tally.sumStates plus Registration.year Registration.weight
      (Stage.name (some name) (Stage.district district (Stage.years years registry.registrations)))
  | .scatter filters =>
    let yearRows := Stage.years filters.years registry.registrations
    countsStates plus (Stage.district filters.district yearRows) ++
      (countsStates plus yearRows ++ narrowStates plus filters yearRows)
  | .map name years =>
    Tally.sumStates plus Registration.district Registration.weight
      (Stage.name (some name) (Stage.years years registry.registrations))

section

variable {plus : Nat → Nat → Nat} {registry : Registry}
  (exact : ExactUpTo (weight registry.registrations) plus)

include exact

theorem answerWith_eq (request : Request) :
    request.answerWith plus registry = request.answerWith (· + ·) registry := by
  cases request with
  | table filters => simp only [answerWith, tableWith, candidatesWith_eq exact]
  | trend name years district =>
      exact congrArg Answer.trend (trendWith_eq exact name years district)
  | scatter filters => exact congrArg Answer.scatter (scatterWith_eq exact filters)
  | map name years => exact congrArg Answer.map (mapWith_eq exact name years)

theorem exactWithin_sumStates (request : Request) :
    ExactWithin (weight registry.registrations) (request.sumStates plus registry)
      (request.sumStates (· + ·) registry) := by
  have district (d : Option String) (rows : List Registration) :
      weight (Stage.district d rows) ≤ weight rows := by
    rw [Stage.district_eq_within]
    exact weight_filter_le _ rows
  have name (n : String) (rows : List Registration) :
      weight (Stage.name (some n) rows) ≤ weight rows := weight_filter_le _ rows
  cases request with
  | table filters =>
      have window := weight_years_le filters.years registry.registrations
      exact (exactWithin_countsStates exact window).append
        (exactWithin_narrowStates exact window filters)
  | trend n years d =>
      have window := weight_years_le years registry.registrations
      exact Tally.exactWithin_sumStates _ Registration.weight exact
        ((name n _).trans ((district d _).trans window))
  | scatter filters =>
      have window := weight_years_le filters.years registry.registrations
      exact (exactWithin_countsStates exact ((district filters.district _).trans window)).append
        ((exactWithin_countsStates exact window).append
          (exactWithin_narrowStates exact window filters))
  | map n years =>
      have window := weight_years_le years registry.registrations
      exact Tally.exactWithin_sumStates _ Registration.weight exact ((name n _).trans window)

end

/-- Where the counts of a registry add up to a word, words give every answer as exact numbers give
it, and so does any addition that is exact up to the count of the registry, whatever it makes of
greater sums. Words pass through the same sums: in every loop of the request, before its first row
and after each of its rows, every sum is the exact one and at most the count of the registry. -/
theorem answer_eq_exact {registry : Registry} (fits : weight registry.registrations < UInt64.size)
    (request : Request) :
    request.answer registry = request.answerWith (· + ·) registry ∧
    (∀ plus, ExactUpTo (weight registry.registrations) plus →
      request.answerWith plus registry = request.answerWith (· + ·) registry) ∧
    request.sumStates wrappingAdd registry = request.sumStates (· + ·) registry ∧
    ∀ state ∈ request.sumStates wrappingAdd registry, ∀ sum ∈ state,
      sum ≤ weight registry.registrations := by
  have exact := exactUpTo_wrappingAdd fits
  have answered : request.answer registry = request.answerWith wrappingAdd registry := by
    cases request <;> rfl
  obtain ⟨same, within⟩ := exactWithin_sumStates exact request
  refine ⟨answered.trans (answerWith_eq exact request),
    fun plus exact => answerWith_eq exact request, same, ?_⟩
  intro state member sum held
  rw [same] at member
  exact (List.le_sum_of_mem held).trans (within state member)

/-- The two years of a key, whose counts add up to the greatest word. -/
def brimSample : List Registration :=
  [⟨2000, "A", .male, "Alex", 9223372036854775808⟩, ⟨2001, "A", .male, "Alex", 9223372036854775807⟩]

/-- A yearly limit that the second year meets and the first one does not. -/
def brimFilters : Filters :=
  ⟨none, none, some ⟨none, some 9223372036854775807⟩, none⟩

/-- An addition that gives nothing beyond the greatest word. -/
def addWithinWord (a b : Nat) : Nat :=
  if a + b < UInt64.size then a + b else 0

/-- The greatest word is reached on the way to the table, and shown in it. -/
theorem answer_eq_exact_brimSample :
    weight (Registry.ofList brimSample).registrations < UInt64.size ∧
    (table brimFilters).answer (Registry.ofList brimSample) =
      .table [⟨"Alex", .male, 18446744073709551615, 1, 18446744073709551615⟩] ∧
    (table brimFilters).sumStates wrappingAdd (Registry.ofList brimSample) =
      [[], [9223372036854775808], [18446744073709551615],
        [], [9223372036854775808], [9223372036854775808, 9223372036854775807],
        [], [9223372036854775807],
        [], [9223372036854775808], [18446744073709551615]] ∧
    (table brimFilters).answer (Registry.ofList brimSample) =
      (table brimFilters).answerWith (· + ·) (Registry.ofList brimSample) ∧
    ExactUpTo (weight (Registry.ofList brimSample).registrations) addWithinWord ∧
    (table brimFilters).answerWith addWithinWord (Registry.ofList brimSample) =
      (table brimFilters).answerWith (· + ·) (Registry.ofList brimSample) ∧
    (table brimFilters).sumStates wrappingAdd (Registry.ofList brimSample) =
      (table brimFilters).sumStates (· + ·) (Registry.ofList brimSample) := by
  have fits : weight (Registry.ofList brimSample).registrations < UInt64.size := by decide
  have exact : ExactUpTo (weight (Registry.ofList brimSample).registrations) addWithinWord := by
    intro a b sum
    exact if_pos (Nat.lt_of_le_of_lt sum fits)
  obtain ⟨answer, others, states, -⟩ := answer_eq_exact fits (table brimFilters)
  exact ⟨fits, by decide +kernel, by decide +kernel, answer, exact, others addWithinWord exact,
    states⟩

end Request

end GivenNames
