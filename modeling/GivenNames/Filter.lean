import GivenNames.Registry
import GivenNames.Text.Lowercase

/-!
Filters: bounds on years, popularity and spread, and the stages that narrow a list of registrations.

Every bound may be absent, and an absent one keeps everything. Bounds are taken as they are: a
minimum above its maximum and a negative maximum match nothing, a negative minimum matches
everything. A stage keeps the order and the repetitions of the rows it keeps.

Two stages judge a name as a whole. The popularity stage adds up the counts of each year and key,
leaves out the years above the yearly limit, and keeps a spelling when one of its keys has a year
left and stays within the limit of the total. The spread stage counts the districts of each key.
-/

namespace GivenNames

/-- Whether a count reaches a minimum. -/
def atLeast (n : Nat) (minimum : Int64) : Bool :=
  minimum.toInt ≤ n

/-- Whether a count stays within a maximum. -/
def atMost (n : Nat) (maximum : Int64) : Bool :=
  n ≤ maximum.toInt

/-! ### Bounds -/

/-- A closed window of years. -/
structure YearBounds where
  min : Option Int32
  max : Option Int32
  deriving DecidableEq, Repr

namespace YearBounds

def contains (b : YearBounds) (year : Int32) : Bool :=
  b.min.all (fun min => min ≤ year) && b.max.all (fun max => year ≤ max)

def form : Json.Form YearBounds :=
  Json.Form.record "YearRange" [
    .of "year_min" [] false Json.Form.int32.optional fun min b => { b with min := min },
    .of "year_max" [] false Json.Form.int32.optional fun max b => { b with max := max }]
    ⟨none, none⟩

def toJson (b : YearBounds) : Json :=
  .object [
    ("year_min", .ofInt? (b.min.map Int32.toInt)),
    ("year_max", .ofInt? (b.max.map Int32.toInt))]

end YearBounds

/-- Limits on how often a name was given. -/
structure PopularityBounds where
  total : Option Int64
  perYear : Option Int64
  deriving DecidableEq, Repr

namespace PopularityBounds

/-- Whether nothing is limited. -/
def isUnbounded (b : PopularityBounds) : Bool :=
  b.total.isNone && b.perYear.isNone

def form : Json.Form PopularityBounds :=
  Json.Form.record "MaxBounds" [
    .of "maxtotal" [] false Json.Form.int64.optional fun total b => { b with total := total },
    .of "maxperyear" [] false Json.Form.int64.optional fun year b => { b with perYear := year }]
    ⟨none, none⟩

def toJson (b : PopularityBounds) : Json :=
  .object [
    ("maxtotal", .ofInt? (b.total.map Int64.toInt)),
    ("maxperyear", .ofInt? (b.perYear.map Int64.toInt))]

end PopularityBounds

/-- Closed bounds on the number of districts in which a name was given. -/
structure SpreadBounds where
  min : Option Int64
  max : Option Int64
  deriving DecidableEq, Repr

namespace SpreadBounds

/-- Whether nothing is limited. -/
def isUnbounded (b : SpreadBounds) : Bool :=
  b.min.isNone && b.max.isNone

def contains (b : SpreadBounds) (districts : Nat) : Bool :=
  b.min.all (atLeast districts) && b.max.all (atMost districts)

def form : Json.Form SpreadBounds :=
  Json.Form.record "DistrictCountBounds" [
    .of "minDistricts" [] false Json.Form.int64.optional fun min b => { b with min := min },
    .of "maxDistricts" [] false Json.Form.int64.optional fun max b => { b with max := max }]
    ⟨none, none⟩

def toJson (b : SpreadBounds) : Json :=
  .object [
    ("minDistricts", .ofInt? (b.min.map Int64.toInt)),
    ("maxDistricts", .ofInt? (b.max.map Int64.toInt))]

end SpreadBounds

/-- What a query may narrow the registrations by; each query reads the parts it knows. -/
structure Filters where
  years : Option YearBounds
  district : Option String
  popularity : Option PopularityBounds
  spread : Option SpreadBounds
  deriving DecidableEq, Repr

/-- No filter at all. -/
def Filters.none : Filters :=
  ⟨.none, .none, .none, .none⟩

/-! ### Stages -/

namespace Stage

/-- Keeps the rows of the years in the window. -/
def years (bounds : Option YearBounds) (rows : List Registration) : List Registration :=
  match bounds with
  | none => rows
  | some b => rows.filter fun r => b.contains r.year

/-- Keeps the rows of exactly this district. -/
def district (district : Option String) (rows : List Registration) : List Registration :=
  match district with
  | none => rows
  | some d => rows.filter fun r => r.district == d

/-- Keeps the rows of this name, upper and lower case aside. -/
def name (name : Option String) (rows : List Registration) : List Registration :=
  match name with
  | none => rows
  | some n =>
    let wanted := Text.lower n
    rows.filter fun r => Text.lower r.name == wanted

/-- The counts of each year and key, added up with `plus`. -/
def yearSums (plus : Nat → Nat → Nat) (rows : List Registration) :
    Tally (Compound Int32 NameKey) Nat :=
  Tally.sumWith plus (fun r => ⟨r.year, r.key⟩) Registration.weight rows

/-- The yearly sums of each key within the yearly limit, added up with `plus`. -/
def limitedTotals (plus : Nat → Nat → Nat) (bounds : PopularityBounds)
    (rows : List Registration) : Tally NameKey Nat :=
  let kept := (yearSums plus rows).entries.filter fun (_, sum) => bounds.perYear.all (atMost sum)
  Tally.sumWith plus (fun (k, _) => k.second) Prod.snd kept

/-- The spellings of which one key stays within the limits. -/
def popularNames (plus : Nat → Nat → Nat) (bounds : PopularityBounds) (rows : List Registration) :
    Tally String Unit :=
  let kept := (limitedTotals plus bounds rows).entries.filter fun (_, sum) =>
    bounds.total.all (atMost sum)
  Tally.labels (fun (k, _) => k.name) kept

/-- Keeps the rows of the spellings within the limits, counts being added with `plus`. -/
def popularityWith (plus : Nat → Nat → Nat) (bounds : Option PopularityBounds)
    (rows : List Registration) : List Registration :=
  match bounds with
  | none => rows
  | some b =>
    if b.isUnbounded then rows
    else
      let names := popularNames plus b rows
      rows.filter fun r => (names.get? r.name).isSome

/-- Keeps the rows of the spellings within the limits. -/
def popularity (bounds : Option PopularityBounds) (rows : List Registration) : List Registration :=
  popularityWith (· + ·) bounds rows

/-- The number of districts of each key. -/
def districtCounts (rows : List Registration) : Tally NameKey Nat :=
  Tally.distinctBy Registration.key Registration.district rows

/-- Keeps the rows of the keys that occur in a number of districts within the bounds. -/
def spread (bounds : Option SpreadBounds) (rows : List Registration) : List Registration :=
  match bounds with
  | none => rows
  | some b =>
    if b.isUnbounded then rows
    else
      let counts := districtCounts rows
      rows.filter fun r => (counts.get? r.key).any b.contains

end Stage

end GivenNames
