import GivenNames.Text.Lines

/-!
Delimited tables: records of fields with a separator between them.

A field may stand in quotes; inside them separators and line ends are ordinary bytes and a quote is
written twice. The separator of a file is guessed from its first line as it stands, quotes and all.
-/

namespace GivenNames.Delimited

/-- What stands between the fields of a record. -/
inductive Separator where
  | semicolon
  | comma
  deriving DecidableEq, Repr

namespace Separator

def char : Separator → Char
  | .semicolon => ';'
  | .comma => ','

def byte : Separator → UInt8
  | .semicolon => 59
  | .comma => 44

/-- The separator of a table that begins with this line: the semicolon, unless only commas occur. -/
def ofFirstLine (line : String) : Separator :=
  if !line.toList.contains ';' && line.toList.contains ',' then .comma else .semicolon

end Separator

/-- The byte that opens and closes a quoted field. -/
def quote : UInt8 := 34

/-- Whether a byte ends a record outside quotes. -/
def isTerminator (b : UInt8) : Bool :=
  b == Text.lineFeed || b == Text.carriageReturn

end GivenNames.Delimited
