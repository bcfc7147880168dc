import GivenNames.Text.Blank
import GivenNames.Text.Lowercase

/-!
The five columns that every table of registrations has, and where a table has them.

A column is known by its short name and by the name it was published under. Byte order marks in
front of a header, blanks around it and the case of its ASCII letters count for nothing. Where
several headers name a column, the first of them does.
-/

namespace GivenNames

/-- What is known of a registration. -/
inductive Column where
  | year
  | district
  | gender
  | name
  | count
  deriving DecidableEq, Repr

namespace Column

/-- The columns in the order in which they are looked for. -/
def all : List Column :=
  [.year, .district, .gender, .name, .count]

/-- The word for a column. -/
def label : Column → String
  | .year => "Year"
  | .district => "District"
  | .gender => "Gender"
  | .name => "Name"
  | .count => "Count"

/-- The name that a column was published under. -/
def published : Column → String
  | .year => "C-JAHR-0"
  | .district => "C-WOHNBEZIRK-0"
  | .gender => "C-GESCHLECHT-0"
  | .name => "F-VORNAME_NORMALISIERT"
  | .count => "F-ANZAHL_LGEB"

/-- All names of a column. -/
def spellings : Column → List String
  | .count => [label .count, published .count, "c"]
  | c => [c.label, c.published]

/-- A header without the byte order marks in front and the blanks around. -/
def bareHeader (header : String) : String :=
  String.ofList (Text.trimChars (header.toList.dropWhile (· == '\ufeff')))

/-- Whether a header names a column. -/
def isNamedBy (c : Column) (header : String) : Bool :=
  c.spellings.any fun s => Text.eqIgnoringAsciiCase s (bareHeader header)

end Column

/-- The positions of the columns in a table. -/
structure Layout where
  year : Nat
  district : Nat
  gender : Nat
  name : Nat
  count : Nat
  deriving DecidableEq, Repr

namespace Layout

/-- The position of a column. -/
def position (l : Layout) : Column → Nat
  | .year => l.year
  | .district => l.district
  | .gender => l.gender
  | .name => l.name
  | .count => l.count

/-- The position of the first header that names a column, or the column if there is none. -/
def find (headers : List String) (c : Column) : Except Column Nat :=
  match headers.findIdx? c.isNamedBy with
  | some position => .ok position
  | none => .error c

/-- The layout of a table with these headers, or the first column that none of them names. -/
def ofHeaders (headers : List String) : Except Column Layout := do
  let year ← find headers .year
  let district ← find headers .district
  let gender ← find headers .gender
  let name ← find headers .name
  let count ← find headers .count
  return ⟨year, district, gender, name, count⟩

end Layout

end GivenNames
