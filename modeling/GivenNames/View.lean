import GivenNames.Filter
import GivenNames.Json.Datum

/-!
The four views of the dashboard: a ranked table of names, the years of one name, a scatter of local
against nationwide counts, and a map of one name over the districts.

The order of the stages matters. The spread is judged over the whole country within the window of
years, then the district is chosen, and popularity is judged inside it. The table and the scatter
read their totals from the window of years alone.
-/

namespace GivenNames

/-! ### Answers -/

/-- A row of the ranked table: the count after all stages, the districts in which the name occurs in
the window of years, and the nationwide count in that window. -/
structure RankedName where
  name : String
  gender : Gender
  count : Nat
  districtCount : Nat
  countTotal : Nat
  deriving DecidableEq, Repr

/-- The counts of one name by year. -/
structure YearTrend where
  name : String
  yearlyCounts : Tally Int32 Nat
  deriving DecidableEq, Repr

/-- A point of the scatter: the count in the chosen district and the nationwide one. -/
structure RarityPoint where
  name : String
  gender : Gender
  countDistrict : Nat
  countTotal : Nat
  deriving DecidableEq, Repr

/-- The counts of one name by district, and the greatest of them. -/
structure DistrictMap where
  name : String
  districtCounts : Tally String Nat
  maxCount : Nat
  deriving DecidableEq, Repr

namespace RankedName

/-- A row as data to be written. -/
def datum (r : RankedName) : Json.Datum :=
  .record [
    ("Name", .text r.name),
    ("Gender", .int r.gender.code.toNat),
    ("Count", .int r.count),
    ("DistrictCount", .int r.districtCount),
    ("Count_total", .int r.countTotal)]

end RankedName

namespace YearTrend

/-- A trend as data to be written, its years as the keys of a map. -/
def datum (t : YearTrend) : Json.Datum :=
  .record [
    ("name", .text t.name),
    ("yearly_counts",
      .map (t.yearlyCounts.entries.map fun (year, count) => (.int year.toInt, .int count)))]

end YearTrend

namespace RarityPoint

/-- A point as data to be written. -/
def datum (p : RarityPoint) : Json.Datum :=
  .record [
    ("Name", .text p.name),
    ("Gender", .int p.gender.code.toNat),
    ("Count_district", .int p.countDistrict),
    ("Count_total", .int p.countTotal)]

end RarityPoint

namespace DistrictMap

/-- A map as data to be written, its districts as the keys. -/
def datum (m : DistrictMap) : Json.Datum :=
  .record [
    ("name", .text m.name),
    ("district_counts",
      .map (m.districtCounts.entries.map fun (district, count) => (.text district, .int count))),
    ("max_count", .int m.maxCount)]

end DistrictMap

/-! ### Views -/

namespace View

/-- The number of rows of the ranked table. -/
def tableSize : Nat := 8

variable (plus : Nat → Nat → Nat)

/-- The counts of each key, added up with `plus`. -/
def countsWith (rows : List Registration) : Tally NameKey Nat :=
  Tally.sumWith plus Registration.key Registration.weight rows

/-- The rows that pass the spread, district and popularity stages, in this order. -/
def narrowWith (filters : Filters) (yearRows : List Registration) : List Registration :=
  Stage.popularityWith plus filters.popularity
    (Stage.district filters.district (Stage.spread filters.spread yearRows))

/-- The districts of each key that has a row among `rows`, counted over all of `yearRows`. -/
def widest (yearRows rows : List Registration) : Tally NameKey Nat :=
  Tally.largest ((Tally.leftJoin rows (Stage.districtCounts yearRows) Registration.key).map
    fun (r, districts) => (r.key, districts.getD 0))

/-- A row for every key that passes the stages, in key order. -/
def candidatesWith (registry : Registry) (filters : Filters) : List RankedName :=
  let yearRows := Stage.years filters.years registry.registrations
  let totals := countsWith plus yearRows
  let rows := narrowWith plus filters yearRows
  let widest := widest yearRows rows
  (Tally.leftJoin (countsWith plus rows).entries totals Prod.fst).map fun ((key, count), total) =>
    { name := key.name
      gender := key.gender
      count := count
      districtCount := (widest.get? key).getD 0
      countTotal := total.getD 0 }

/-- The most frequent of the candidates, the largest count first; equal counts keep their order. -/
def cut (candidates : List RankedName) : List RankedName :=
  (candidates.mergeSort fun a b => b.count ≤ a.count).take tableSize

/-- The ranked table. -/
def tableWith (registry : Registry) (filters : Filters) : List RankedName :=
  cut (candidatesWith plus registry filters)

/-- The years of a name, in the window of years and the district. Years without registrations are
left out. -/
def trendWith (registry : Registry) (name : String) (years : Option YearBounds)
    (district : Option String) : YearTrend :=
  let rows := Stage.name (some name)
    (Stage.district district (Stage.years years registry.registrations))
  ⟨name, Tally.sumWith plus Registration.year Registration.weight rows⟩

/-- A point for every key that passes the stages, in key order. Both of its counts are taken before
the spread and popularity stages. -/
def scatterWith (registry : Registry) (filters : Filters) : List RarityPoint :=
  let yearRows := Stage.years filters.years registry.registrations
  let inDistrict := countsWith plus (Stage.district filters.district yearRows)
  let totals := countsWith plus yearRows
  let keys := (countsWith plus (narrowWith plus filters yearRows)).keys
  (Tally.leftJoin keys inDistrict id).map fun (key, count) =>
    { name := key.name
      gender := key.gender
      countDistrict := count.getD 0
      countTotal := (totals.get? key).getD 0 }

/-- The districts of a name in the window of years. -/
def mapWith (registry : Registry) (name : String) (years : Option YearBounds) : DistrictMap :=
  let rows := Stage.name (some name) (Stage.years years registry.registrations)
  let counts := Tally.sumWith plus Registration.district Registration.weight rows
  ⟨name, counts, counts.values.foldl max 0⟩

end View

namespace View

/-- The ranked table, with exact counts. -/
def table (registry : Registry) (filters : Filters) : List RankedName :=
  tableWith (· + ·) registry filters

/-- The years of a name, with exact counts. -/
def trend (registry : Registry) (name : String) (years : Option YearBounds)
    (district : Option String) : YearTrend :=
  trendWith (· + ·) registry name years district

/-- The scatter, with exact counts. -/
def scatter (registry : Registry) (filters : Filters) : List RarityPoint :=
  scatterWith (· + ·) registry filters

/-- The map of a name, with exact counts. -/
def map (registry : Registry) (name : String) (years : Option YearBounds) : DistrictMap :=
  mapWith (· + ·) registry name years

/-- Addition of unsigned words of 64 bits, which wraps around. -/
def wrappingAdd (a b : Nat) : Nat :=
  (a + b) % UInt64.size

end View

end GivenNames
