import GivenNames.Columnar
import GivenNames.Registration
import GivenNames.Source.Column

/-!
From a row of a table to a registration.

A row is given by what its cells are read as: an integer or a text, for each column. The checks come
in one order, whatever the layout of the table: the year, its range, the gender, the count, the
district, the code of the gender, the name, the sign of the count. The first that fails is reported.
Cells of delimited tables are trimmed; cells of columnar tables are taken as they are, but for the
blanks around a number in a text.
-/

namespace GivenNames

/-- Why a cell is not what its column should hold. -/
inductive CellFault where
  | absent
  | null
  | notInteger (text : String) (reason : IntegerError)
  | beyondInt64 (n : Int) (reason : IntegerError)
  | wrongType (type : Columnar.ColumnType)
  deriving DecidableEq, Repr

/-- Why an integer is not the year, the gender or the count of a registration. -/
inductive ValueFault where
  | yearOutOfRange (year : Int) (reason : IntegerError)
  | genderOutOfRange (code : Int) (reason : IntegerError)
  | unknownGender (code : Nat)
  | negativeCount (count : Int) (reason : IntegerError)
  deriving DecidableEq, Repr

/-- Why a row is no registration. -/
inductive RowFault where
  | cell (column : Column) (fault : CellFault)
  | value (fault : ValueFault)
  deriving DecidableEq, Repr

/-- What the cells of a row are read as. -/
structure RowCells where
  integer : Column → Except CellFault Int
  text : Column → Except CellFault String

namespace RowCells

/-- The integer of a column. -/
def number (row : RowCells) (c : Column) : Except RowFault Int :=
  (row.integer c).mapError (.cell c)

/-- The text of a column. -/
def string (row : RowCells) (c : Column) : Except RowFault String :=
  (row.text c).mapError (.cell c)

/-- The year that an integer stands for. -/
def yearOf (n : Int) : Except RowFault Int32 :=
  (Integer.toInt32 n).mapError fun reason => .value (.yearOutOfRange n reason)

/-- The gender that an integer is the code of. -/
def genderOf (n : Int) : Except RowFault Gender :=
  match Integer.toUInt8 n with
  | .error reason => .error (.value (.genderOutOfRange n reason))
  | .ok code =>
    match Gender.ofCode? code with
    | some g => .ok g
    | none => .error (.value (.unknownGender code.toNat))

/-- The count that an integer stands for. -/
def countOf (n : Int) : Except RowFault UInt64 :=
  (Integer.toUInt64 n).mapError fun reason => .value (.negativeCount n reason)

/-- The registration of a row. -/
def registration (row : RowCells) : Except RowFault Registration := do
  let year ← yearOf (← row.number .year)
  let code ← row.number .gender
  let count ← row.number .count
  let district ← row.string .district
  let gender ← genderOf code
  let name ← row.string .name
  let count ← countOf count
  return ⟨year, district, gender, name, count⟩

/-! ### Rows of delimited tables -/

/-- The trimmed text of a field. -/
def fieldText (fields : List String) (position : Nat) : Except CellFault String :=
  match fields[position]? with
  | none => .error .absent
  | some s => .ok (Text.trim s)

/-- The integer of a field. -/
def fieldInteger (fields : List String) (position : Nat) : Except CellFault Int :=
  match fieldText fields position with
  | .error fault => .error fault
  | .ok s => (Integer.read s.toList).mapError (.notInteger s)

/-- The cells of a record of a delimited table. -/
def ofFields (layout : Layout) (fields : List String) : RowCells where
  integer c := fieldInteger fields (layout.position c)
  text c := fieldText fields (layout.position c)

/-! ### Rows of columnar tables -/

/-- The integer that a cell holds, as a number or as a text. -/
def contentInteger : Columnar.Content → Except CellFault Int
  | .null => .error .null
  | .integer n =>
    (Integer.inRange (-0x8000000000000000) 0x7fffffffffffffff n).mapError (.beyondInt64 n)
  | .text s => (Integer.read (Text.trimChars s.toList)).mapError (.notInteger s)
  | .other type => .error (.wrongType type)

/-- The text that a cell holds; numbers are written in decimal form. -/
def contentText : Columnar.Content → Except CellFault String
  | .text s => .ok s
  | content => (contentInteger content).map Integer.text

/-- The content of a cell at a position. -/
def contentAt {α : Type} (cells : List Columnar.Cell) (position : Nat)
    (take : Columnar.Content → Except CellFault α) : Except CellFault α :=
  match cells[position]? with
  | none => .error .absent
  | some cell => take cell.content

/-- The cells of a row of a columnar table. -/
def ofCells (layout : Layout) (cells : List Columnar.Cell) : RowCells where
  integer c := contentAt cells (layout.position c) contentInteger
  text c := contentAt cells (layout.position c) contentText

end RowCells

end GivenNames
