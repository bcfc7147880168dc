import GivenNames.Columnar.Footer
import GivenNames.Delimited.Reader
import GivenNames.Json.Fault
import GivenNames.Source.Row

/-!
Why a source gives no registrations.

A fault is told as a chain of causes, the outermost first: what was being done, down to why it could
not be. Rows of delimited tables are counted from the header, which is line 1; rows of columnar
tables are counted from 0.
-/

namespace GivenNames

/-- The formats that registrations are kept in. -/
inductive Format where
  | delimited
  | columnar
  | json
  deriving DecidableEq, Repr

/-- The format that goes with the extension of a path. -/
def Format.ofExtension? (extension : String) : Option Format :=
  if extension = "csv" ∨ extension = "txt" then some .delimited
  else if extension = "parquet" ∨ extension = "pq" then some .columnar
  else if extension = "json" then some .json
  else none

/-- Why a file has no text. -/
inductive FileFault where
  | notFound
  | notDirectory
  | nameTooLong
  | isDirectory
  | notText
  deriving DecidableEq, Repr

def FileFault.message : FileFault → String
  | .notFound => "No such file or directory (os error 2)"
  | .notDirectory => "Not a directory (os error 20)"
  | .nameTooLong => "File name too long (os error 36)"
  | .isDirectory => "Is a directory (os error 21)"
  | .notText => "stream did not contain valid UTF-8"

/-- Why the description of a columnar file cannot be read. -/
inductive DescriptionFault where
  | isDirectory
  | footer (fault : Columnar.FooterFault)
  deriving DecidableEq, Repr

/-- Why a source is refused. -/
inductive SourceFault where
  | openingDelimited (fault : FileFault)
  | headerLine (fault : FileFault)
  | header (fault : Delimited.Fault)
  | missingColumn (format : Format) (column : Column)
  | record (row : Nat) (fault : Delimited.Fault)
  | delimitedRow (row : Nat) (fault : RowFault)
  | openingColumnar (fault : FileFault)
  | description (fault : DescriptionFault)
  | columnarRow (row : Nat) (fault : RowFault)
  | readingJson (fault : FileFault)
  | parsingJson (fault : Json.Fault)
  deriving DecidableEq, Repr

/-! ### Wording -/

namespace CellFault

/-- The causes that a cell of a columnar table is refused for. -/
def cellCauses : CellFault → List String
  | .absent => ["missing value"]
  | .null => ["null value"]
  | .notInteger s reason => [Text.inApostrophes s ++ " is not an integer", reason.message]
  | .beyondInt64 n reason => ["value " ++ Integer.text n ++ " out of range", reason.message]
  | .wrongType type => ["Expected an integer column, got " ++ type.name]

/-- The causes that a field of a delimited table is refused for. -/
def fieldCauses (column : Column) : CellFault → List String
  | .absent => ["missing " ++ Text.inApostrophes column.label ++ " value"]
  | .notInteger s reason =>
    [column.label ++ ": " ++ Text.inApostrophes s ++ " is not an integer", reason.message]
  | fault => fault.cellCauses

end CellFault

/-- What was wrong with a value, and why. -/
def ValueFault.causes : ValueFault → List String
  | .yearOutOfRange year reason => ["year " ++ Integer.text year ++ " out of range", reason.message]
  | .genderOutOfRange code reason =>
    ["gender code " ++ Integer.text code ++ " out of range", reason.message]
  | .unknownGender code => [Gender.unknownMessage code]
  | .negativeCount count reason => ["negative count " ++ Integer.text count, reason.message]

namespace RowFault

/-- The causes that a record of a delimited table is refused for. -/
def recordCauses : RowFault → List String
  | .cell column fault => fault.fieldCauses column
  | .value fault => fault.causes

/-- The causes that a row of a columnar table is refused for, the row included. -/
def rowCauses (row : Nat) : RowFault → List String
  | .cell column fault =>
    ("Row " ++ Integer.natText row ++ ": failed to read " ++ Text.inApostrophes column.label)
      :: fault.cellCauses
  | .value (.yearOutOfRange year reason) =>
    ["Row " ++ Integer.natText row ++ ": year " ++ Integer.text year ++ " out of range",
      reason.message]
  | .value fault => ("Row " ++ Integer.natText row) :: fault.causes

end RowFault

namespace SourceFault

/-- What a table is called where a column is missing. -/
def tableWord : Format → String
  | .delimited => "CSV"
  | .columnar => "Parquet file"
  | .json => "JSON"

/-- The line that the record of a delimited table is counted as. -/
def lineWord (row : Nat) : String :=
  "CSV line " ++ Integer.natText (row + 1)

/-- The chain of causes. -/
def causes : SourceFault → List String
  | .openingDelimited fault => ["opening CSV", fault.message]
  | .headerLine fault => ["reading CSV header line", fault.message]
  | .header fault => ["reading CSV headers", fault.message]
  | .missingColumn format column =>
    [tableWord format ++ " missing " ++ Text.inApostrophes column.label ++ " column"]
  | .record row fault => [lineWord row, fault.message]
  | .delimitedRow row fault => lineWord row :: fault.recordCauses
  | .openingColumnar fault => ["opening parquet file", fault.message]
  | .description .isDirectory =>
    ["reading parquet metadata", "External: " ++ FileFault.isDirectory.message,
      FileFault.isDirectory.message]
  | .description (.footer fault) => ["reading parquet metadata", fault.message]
  | .columnarRow row fault => fault.rowCauses row
  | .readingJson fault => ["reading JSON file", fault.message]
  | .parsingJson fault => ["parsing JSON records", fault.message]

end SourceFault

/-- Why a path gives no registry. -/
inductive LoadError where
  | unsupported (extension : String)
  | failed (path : String) (fault : SourceFault)
  deriving DecidableEq, Repr

namespace LoadError

/-- The chain of causes, the outermost first. -/
def causes : LoadError → List String
  | .unsupported extension => ["Unsupported file extension: ." ++ extension]
  | .failed path fault => ("loading " ++ path) :: fault.causes

end LoadError

/-- A chain of causes on one line. -/
def chainText (causes : List String) : String :=
  ": ".intercalate causes

end GivenNames
