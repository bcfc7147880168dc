import GivenNames.Integer
import GivenNames.Text.Utf8

/-!
Columnar tables: named columns of one type each, whose cells may be null.

The values of a column are typed by it: a narrow integer column holds narrow integers. Registrations
are read from columns of integers and of texts; all other types are known by what they are called.
Rows come in batches, which follow one another.
-/

namespace GivenNames.Columnar

/-- The type of a column: one that registrations are read from, or any other. -/
inductive ColumnType where
  | int8
  | int16
  | int32
  | int64
  | uint8
  | uint16
  | uint32
  | uint64
  | utf8
  | largeUtf8
  | other (name : String)
  deriving DecidableEq, Repr

namespace ColumnType

/-- A type in the words of messages. -/
def name : ColumnType → String
  | .int8 => "Int8"
  | .int16 => "Int16"
  | .int32 => "Int32"
  | .int64 => "Int64"
  | .uint8 => "UInt8"
  | .uint16 => "UInt16"
  | .uint32 => "UInt32"
  | .uint64 => "UInt64"
  | .utf8 => "Utf8"
  | .largeUtf8 => "LargeUtf8"
  | .other name => name

/-- The values of a type. Of types that no registration is read from, a value is only known to be
there. -/
abbrev Value : ColumnType → Type
  | .int8 => Int8
  | .int16 => Int16
  | .int32 => Int32
  | .int64 => Int64
  | .uint8 => UInt8
  | .uint16 => UInt16
  | .uint32 => UInt32
  | .uint64 => UInt64
  | .utf8 => String
  | .largeUtf8 => String
  | .other _ => Unit

end ColumnType

/-- A cell, with the type of its column; without a value it is reported as null. A column of a type
that has nothing but nulls keeps no record of them, so its cells are reported as values. -/
structure Cell where
  type : ColumnType
  value : Option type.Value

/-- What a cell is read as. -/
inductive Content where
  | null
  | integer (n : Int)
  | text (s : String)
  | other (type : ColumnType)
  deriving DecidableEq, Repr

/-- What a cell holds; a null cell holds nothing, whatever its type. -/
def Cell.content : Cell → Content
  | ⟨_, none⟩ => .null
  | ⟨.int8, some v⟩ => .integer v.toInt
  | ⟨.int16, some v⟩ => .integer v.toInt
  | ⟨.int32, some v⟩ => .integer v.toInt
  | ⟨.int64, some v⟩ => .integer v.toInt
  | ⟨.uint8, some v⟩ => .integer v.toNat
  | ⟨.uint16, some v⟩ => .integer v.toNat
  | ⟨.uint32, some v⟩ => .integer v.toNat
  | ⟨.uint64, some v⟩ => .integer v.toNat
  | ⟨.utf8, some s⟩ => .text s
  | ⟨.largeUtf8, some s⟩ => .text s
  | ⟨type, some _⟩ => .other type

/-- A column: its name, its type and its cells. -/
structure Column where
  name : String
  type : ColumnType
  cells : List (Option type.Value)

/-- The cells of a column with their type. -/
def Column.typedCells (c : Column) : List Cell :=
  c.cells.map fun value => ⟨c.type, value⟩

/-- A table: the names of its columns, and its rows in batches. -/
structure Table where
  header : List String
  batches : List (List (List Cell))

/-- The rows of columns, side by side. -/
def rowsOf : List Column → List (List Cell)
  | [] => []
  | [c] => c.typedCells.map fun cell => [cell]
  | c :: columns => List.zipWith (· :: ·) c.typedCells (rowsOf columns)

/-- The table of columns of one length, in one batch. -/
def Table.ofColumns (columns : List Column) : Table :=
  ⟨columns.map Column.name, [rowsOf columns]⟩

end GivenNames.Columnar
