import GivenNames.Proofs.Spellings

/-!
The law of the popularity stage.

The stage adds up twice: the counts of each year and key, and the yearly sums of each key that are
within the yearly limit. Both sums of a key are made of its own registrations, so words are enough
as long as the counts of every single key add up to a word (`limitedTotals_eq_of_keys`). Main
statements: the stage keeps the registrations of the spellings of which one key has a year within
the yearly limit, and all such years within the limit of the total (`popularityWith_wrappingAdd`),
and it may as well be run twice, or after the choice of a name (`popularityWith_repeated`). A year
above the yearly limit is missing from the total and not from what is kept.
-/

namespace GivenNames.Stage

open Population

/-! ### Additions that are exact for every key -/

/-- The total of a key is made of its own registrations. -/
theorem get?_limitedTotals_ofKey (plus : Nat → Nat → Nat) (b : PopularityBounds)
    (rows : List Registration) (key : NameKey) :
    (limitedTotals plus b (ofKey key rows)).get? key = (limitedTotals plus b rows).get? key := by
  have entries := entries_limitedTotals_filter plus b rows fun other => other = key
  have value := Tally.valueAt?_filter_key (fun other : NameKey => decide (other = key))
    (limitedTotals plus b rows).entries key
  rw [← entries, if_pos (decide_eq_true rfl)] at value
  exact value

section Keys

variable {plus : Nat → Nat → Nat} {rows : List Registration}
  (exact : ∀ key, Tally.ExactUpTo (weight (ofKey key rows)) plus)

include exact

/-- An addition that is exact up to the count of each key gives the exact totals. -/
theorem limitedTotals_eq_of_keys (b : PopularityBounds) :
    limitedTotals plus b rows = limitedTotals (· + ·) b rows := by
  have ordered :=
    Tally.ordered_sumWith (fun e : Compound Int32 NameKey × Nat => e.1.second) Prod.snd
  refine (ordered plus _).ext (ordered (· + ·) _) fun key => ?_
  change (limitedTotals plus b rows).get? key = (limitedTotals (· + ·) b rows).get? key
  rw [← get?_limitedTotals_ofKey plus, ← get?_limitedTotals_ofKey (· + ·),
    limitedTotals_eq (exact key)]

theorem popularityWith_eq_of_keys (bounds : Option PopularityBounds) :
    popularityWith plus bounds rows = popularity bounds rows := by
  cases bounds with
  | none => rfl
  | some b => simp only [popularity, popularityWith, popularNames, limitedTotals_eq_of_keys exact]

end Keys

/-! ### The law -/

theorem admitsSpelling_some_iff {b : PopularityBounds} (limited : ¬b.isUnbounded)
    {rows : List Registration} {name : String} :
    PopularityBounds.AdmitsSpelling (some b) rows name ↔
      ∃ g : Gender, b.Admits (ofKey ⟨name, g⟩ rows) := by
  rw [PopularityBounds.isUnbounded_iff] at limited
  simp [PopularityBounds.AdmitsSpelling, limited]

/-- The stage keeps, in their order and as often as they occur, the rows of exactly the spellings of
which one gender stays within the limits: some year of it is within the yearly limit, and its years
within the yearly limit are within the limit of the total. Without a limit it keeps all rows. Words
of 64 bits decide this for all rows in which the counts of every key add up to a word. -/
theorem popularityWith_wrappingAdd {rows : List Registration}
    (fits : ∀ key, weight (ofKey key rows) < UInt64.size) (b : PopularityBounds) :
    (b.total.isSome ∨ b.perYear.isSome →
      popularityWith View.wrappingAdd (some b) rows =
        rows.filter fun r => ∃ g : Gender, b.Admits (ofKey ⟨r.name, g⟩ rows)) ∧
    (b.total = none ∧ b.perYear = none → popularityWith View.wrappingAdd (some b) rows = rows) ∧
    popularityWith View.wrappingAdd none rows = rows := by
  have exact (key : NameKey) := View.exactUpTo_wrappingAdd (fits key)
  refine ⟨fun limited => ?_, fun ⟨total, perYear⟩ => ?_, rfl⟩
  · have limited : ¬b.isUnbounded := by
      cases total : b.total <;> cases perYear : b.perYear <;>
        simp_all [PopularityBounds.isUnbounded]
    rw [popularityWith_eq_of_keys exact, popularity_eq_filter]
    exact List.filter_congr fun r _ => by simp only [admitsSpelling_some_iff limited]
  · have unbounded : b.isUnbounded := by simp [PopularityBounds.isUnbounded, total, perYear]
    simp only [popularityWith, if_pos unbounded]

/-- Two genders of one spelling, of which one is over both limits; a year over the yearly limit next
to one at the limits, given in two rows; and a spelling with a single year over the limit. -/
def limitsSample : List Registration :=
  [⟨2000, "A", .male, "Alex", 2⟩, ⟨2001, "A", .male, "Alex", 6⟩, ⟨2000, "A", .male, "Alex", 2⟩,
    ⟨2000, "B", .female, "Alex", 18446744073709551615⟩, ⟨2000, "A", .male, "Jonas", 9⟩]

/-- The spelling of the two genders is kept with all of its rows, and the other one is dropped; a
negative limit drops all. The counts of all rows together are more than a word. -/
theorem popularityWith_wrappingAdd_limitsSample :
    (∀ key, weight (ofKey key limitsSample) < UInt64.size) ∧
    UInt64.size ≤ weight limitsSample ∧
    popularityWith View.wrappingAdd (some ⟨some 4, some 5⟩) limitsSample = limitsSample.take 4 ∧
    popularityWith View.wrappingAdd (some ⟨some 4, some 5⟩) limitsSample =
      limitsSample.filter (fun r =>
        ∃ g : Gender, PopularityBounds.Admits ⟨some 4, some 5⟩ (ofKey ⟨r.name, g⟩ limitsSample)) ∧
    popularityWith View.wrappingAdd (some ⟨some (-1), none⟩) limitsSample = [] ∧
    popularityWith View.wrappingAdd (some ⟨none, none⟩) limitsSample = limitsSample := by
  have fits : ∀ key, weight (ofKey key limitsSample) < UInt64.size := by
    have registered : ∀ key ∈ limitsSample.map Registration.key,
        weight (ofKey key limitsSample) < UInt64.size := by decide +kernel
    intro key
    by_cases present : key ∈ limitsSample.map Registration.key
    · exact registered key present
    · have empty : ofKey key limitsSample = [] :=
        not_not.mp fun some => present (Tally.mem_map_iff_filter_ne_nil.mpr some)
      rw [empty]
      decide
  have limited := popularityWith_wrappingAdd fits ⟨some 4, some 5⟩
  have unlimited := popularityWith_wrappingAdd fits ⟨none, none⟩
  exact ⟨fits, by decide +kernel, by decide +kernel, limited.1 (.inl rfl), by decide +kernel,
    unlimited.2.1 ⟨rfl, rfl⟩⟩

/-! ### Run again, and together with a name -/

/-- The stage keeps the rows of some spellings, which it finds by adding up these rows alone. So a
second run keeps all that the first one left, although the years above the yearly limit are still
among them, and the rows of a name may as well be chosen before it as after it: a name stands for
all of its spellings, upper and lower case aside, each of which is judged by itself. No sum has to
fit into a word, since this holds of every addition. -/
theorem popularityWith_repeated (plus : Nat → Nat → Nat) (bounds : Option PopularityBounds)
    (rows : List Registration) :
    popularityWith plus bounds (popularityWith plus bounds rows) =
        popularityWith plus bounds rows ∧
      ∀ wanted : Option String,
        name wanted (popularityWith plus bounds rows) =
          popularityWith plus bounds (name wanted rows) := by
  have kept : popularityWith plus bounds rows = spelled (keeps plus bounds rows) rows :=
    popularityWith_eq_filter plus bounds rows
  constructor
  · calc popularityWith plus bounds (popularityWith plus bounds rows)
        = popularityWith plus bounds (spelled (keeps plus bounds rows) rows) := by rw [kept]
      _ = spelled (keeps plus bounds rows) (popularityWith plus bounds rows) :=
          popularityWith_spelled plus rows bounds
      _ = popularityWith plus bounds rows := by
          rw [kept]
          simp only [spelled, List.filter_filter, Bool.and_self]
  · intro wanted
    cases wanted with
    | none => rfl
    | some n =>
        exact (popularityWith_spelled (p := fun s => Text.lower s == Text.lower n)
          plus rows bounds).symm

/-- Three spellings of one name, one of them above the yearly limit in one of its years. -/
def spellingsSample : List Registration :=
  [⟨2000, "A", .male, "Alex", 2⟩, ⟨2001, "A", .male, "Alex", 6⟩, ⟨2000, "A", .female, "ALEX", 9⟩,
    ⟨2000, "B", .female, "alex", 4⟩, ⟨2000, "B", .female, "Maria", 1⟩]

example : popularity (some ⟨some 4, some 5⟩) (name (some "aLEX") spellingsSample) =
    [⟨2000, "A", .male, "Alex", 2⟩, ⟨2001, "A", .male, "Alex", 6⟩,
      ⟨2000, "B", .female, "alex", 4⟩] := by decide +kernel

end GivenNames.Stage
