import GivenNames.Filter
import GivenNames.Proofs.Order
import GivenNames.Proofs.Tally.Gathering

/-!
Populations: lists of registrations, and what can be said of them without running a stage.

Sums, keys, years and districts of a population are given by filtering it, and bounds are compared
as integers. A key survives filters when it is registered in the chosen district, occurs in a
number of districts that the spread bounds admit, and one key of its spelling stays within the
popularity limits (`Filters.Survives`). All of it can be decided.
-/

namespace GivenNames

instance : Fintype Gender :=
  ⟨{.male, .female}, fun g => by cases g <;> decide⟩

/-! ### Parts of a population -/

namespace Population

/-- The sum of all counts. -/
def weight (rows : List Registration) : Nat :=
  (rows.map Registration.weight).sum

/-- The registrations of one key. -/
def ofKey (key : NameKey) (rows : List Registration) : List Registration :=
  rows.filter fun r => r.key = key

/-- The registrations of one year. -/
def ofYear (year : Int32) (rows : List Registration) : List Registration :=
  rows.filter fun r => r.year = year

/-- The districts that occur. -/
def districts (rows : List Registration) : Finset String :=
  (rows.map Registration.district).toFinset

/-- The registrations of one district, or all of them where none is chosen. -/
def within (district : Option String) (rows : List Registration) : List Registration :=
  rows.filter fun r => ∀ d ∈ district, r.district = d

theorem weight_filter_le (p : Registration → Bool) (rows : List Registration) :
    weight (rows.filter p) ≤ weight rows :=
  (List.filter_sublist.map Registration.weight).sum_le_sum fun _ _ => Nat.zero_le _

theorem mem_ofKey {key : NameKey} {rows : List Registration} {r : Registration} :
    r ∈ ofKey key rows ↔ r ∈ rows ∧ r.key = key := by
  simp [ofKey]

theorem mem_within {district : Option String} {rows : List Registration} {r : Registration} :
    r ∈ within district rows ↔ r ∈ rows ∧ ∀ d ∈ district, r.district = d := by
  simp [within]

theorem ofKey_filter_key (p : NameKey → Bool) (key : NameKey) (rows : List Registration) :
    ofKey key (rows.filter fun r => p r.key) = if p key then ofKey key rows else [] :=
  Tally.filter_filter_key Registration.key p rows key

theorem ofKey_within (district : Option String) (key : NameKey) (rows : List Registration) :
    ofKey key (within district rows) = within district (ofKey key rows) := by
  simp only [ofKey, within, List.filter_filter, Bool.and_comm]

/-- A small population: one spelling for both genders, and another one, in two districts. -/
def sample : List Registration :=
  [⟨2000, "A", .male, "Alex", 4⟩, ⟨2001, "B", .male, "Alex", 6⟩, ⟨2000, "B", .female, "Alex", 2⟩,
    ⟨2001, "A", .female, "Maria", 10⟩]

end Population

open Population

/-! ### What bounds admit -/

/-- A year lies in the window, where there is one. -/
def YearBounds.Admits (bounds : Option YearBounds) (year : Int32) : Prop :=
  ∀ b ∈ bounds, (∀ min ∈ b.min, min.toInt ≤ year.toInt) ∧ ∀ max ∈ b.max, year.toInt ≤ max.toInt

instance (bounds : Option YearBounds) (year : Int32) : Decidable (YearBounds.Admits bounds year) :=
  inferInstanceAs (Decidable (∀ b ∈ bounds, _ ∧ _))

/-- A number of districts lies within the bounds, where there are any. -/
def SpreadBounds.Admits (bounds : Option SpreadBounds) (districts : Nat) : Prop :=
  ∀ b ∈ bounds, (∀ min ∈ b.min, min.toInt ≤ districts) ∧ ∀ max ∈ b.max, districts ≤ max.toInt

instance (bounds : Option SpreadBounds) (districts : Nat) :
    Decidable (SpreadBounds.Admits bounds districts) :=
  inferInstanceAs (Decidable (∀ b ∈ bounds, _ ∧ _))

namespace PopularityBounds

/-- The years of a population of which the sum stays within the yearly limit. -/
def quietYears (b : PopularityBounds) (rows : List Registration) : Finset Int32 :=
  (rows.map Registration.year).toFinset.filter fun year =>
    ∀ limit ∈ b.perYear, weight (ofYear year rows) ≤ limit.toInt

/-- A year within the yearly limit is left, and the years left stay within the limit in total. -/
def Admits (b : PopularityBounds) (rows : List Registration) : Prop :=
  (b.quietYears rows).Nonempty ∧
    ∀ limit ∈ b.total,
      ((∑ year ∈ b.quietYears rows, weight (ofYear year rows) : Nat) : Int) ≤ limit.toInt

instance (b : PopularityBounds) (rows : List Registration) : Decidable (b.Admits rows) :=
  inferInstanceAs (Decidable (_ ∧ _))

/-- Nothing is limited. -/
def Unlimited (bounds : Option PopularityBounds) : Prop :=
  ∀ b ∈ bounds, b.total = none ∧ b.perYear = none

instance (bounds : Option PopularityBounds) : Decidable (Unlimited bounds) :=
  inferInstanceAs (Decidable (∀ b ∈ bounds, _ ∧ _))

/-- Nothing is limited, or one key of the spelling stays within the limits. -/
def AdmitsSpelling (bounds : Option PopularityBounds) (rows : List Registration) (name : String) :
    Prop :=
  Unlimited bounds ∨ ∃ g : Gender, ∀ b ∈ bounds, b.Admits (ofKey ⟨name, g⟩ rows)

instance (bounds : Option PopularityBounds) (rows : List Registration) (name : String) :
    Decidable (AdmitsSpelling bounds rows name) :=
  inferInstanceAs (Decidable (_ ∨ _))

end PopularityBounds

/-! ### Survivors -/

namespace Filters

/-- The registrations of the years in the window. -/
def population (filters : Filters) (rows : List Registration) : List Registration :=
  rows.filter fun r => YearBounds.Admits filters.years r.year

/-- A key is registered in the chosen district, and nationwide in a number of districts that the
bounds admit. -/
structure Eligible (filters : Filters) (rows : List Registration) (key : NameKey) : Prop where
  registered : ∃ r ∈ rows, r.key = key ∧ ∀ d ∈ filters.district, r.district = d
  spread : SpreadBounds.Admits filters.spread (districts (ofKey key rows)).card

/-- A key survives the filters: it is eligible, and where popularity is limited, an eligible key of
its spelling stays within the limits inside the chosen district. -/
structure Survives (filters : Filters) (rows : List Registration) (key : NameKey) : Prop extends
    Eligible filters rows key where
  popularity : PopularityBounds.Unlimited filters.popularity ∨
    ∃ g : Gender, Eligible filters rows ⟨key.name, g⟩ ∧
      ∀ b ∈ filters.popularity, b.Admits (within filters.district (ofKey ⟨key.name, g⟩ rows))

/-- Filters that use every stage, for the sample. -/
def sampleFilters : Filters :=
  ⟨some ⟨some 2000, some 2001⟩, some "A", some ⟨some 9, some 5⟩, some ⟨some 2, Option.none⟩⟩

end Filters

end GivenNames
