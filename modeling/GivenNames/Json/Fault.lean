import GivenNames.Binary64.Shortest
import GivenNames.Json
import GivenNames.Text.Quoted
import GivenNames.Text.Utf8

/-!
Why a JSON text or a JSON value is refused, and where.

A fault is a cause and, for a text, a place: the line and the byte column of the last byte that was
looked at. Values that were read earlier have no places.
-/

namespace GivenNames.Json

/-- What a reader was about to take, in the words of messages. -/
inductive Expected where
  | int32
  | int64
  | uint64
  | uint8
  | text
  | sequence
  | record (name : String)
  deriving DecidableEq, Repr

/-- What stood in the place of something else. -/
inductive Found where
  | null
  | bool (b : Bool)
  | int (n : Int)
  | float (x : Binary64)
  | text (s : String)
  | sequence
  | members
  deriving DecidableEq, Repr

/-- Why reading stops. -/
inductive Cause where
  | endOfValue
  | endOfList
  | endOfObject
  | endOfString
  | expectedValue
  | expectedIdent
  | expectedColon
  | expectedListEnd
  | expectedObjectEnd
  | keyNotString
  | trailingComma
  | trailingCharacters
  | invalidNumber
  | numberOutOfRange
  | invalidEscape
  | controlCharacter
  | unpairedEscape
  | loneSurrogate
  | nestedTooDeeply
  | wrongType (found : Found) (expected : Expected)
  | wrongValue (n : Int) (expected : Expected)
  | missingField (name : String)
  | duplicateField (name : String)
  | tooFewItems (count : Nat) (record : String) (fields : Nat)
  | tooManyItems (count : Nat)
  | refused (reason : String)
  deriving DecidableEq, Repr

/-- A line and a byte column, both counted as editors do; column 0 lies before the first byte. -/
structure Place where
  line : Nat
  column : Nat
  deriving DecidableEq, Repr

/-- The place `offset` bytes into a text. -/
def Place.ofOffset (bytes : Text.Bytes) (offset : Nat) : Place :=
  let before := bytes.take offset
  ⟨1 + before.count 10, (before.reverse.takeWhile (· != 10)).length⟩

/-- A cause, and a place where there is one. -/
structure Fault where
  cause : Cause
  place : Option Place
  deriving DecidableEq, Repr

/-! ### Wording -/

def Expected.message : Expected → String
  | .int32 => "i32"
  | .int64 => "i64"
  | .uint64 => "u64"
  | .uint8 => "u8"
  | .text => "a string"
  | .sequence => "a sequence"
  | .record name => "struct " ++ name

def Found.message : Found → String
  | .null => "null"
  | .bool b => "boolean " ++ Text.inBackticks (if b then "true" else "false")
  | .int n => "integer " ++ Text.inBackticks (Integer.text n)
  | .float x => "floating point " ++ Text.inBackticks (String.ofList x.chars)
  | .text s => "string " ++ Text.quoted s
  | .sequence => "sequence"
  | .members => "map"

def Cause.message : Cause → String
  | .endOfValue => "EOF while parsing a value"
  | .endOfList => "EOF while parsing a list"
  | .endOfObject => "EOF while parsing an object"
  | .endOfString => "EOF while parsing a string"
  | .expectedValue => "expected value"
  | .expectedIdent => "expected ident"
  | .expectedColon => "expected " ++ Text.inBackticks ":"
  | .expectedListEnd => "expected " ++ Text.inBackticks "," ++ " or " ++ Text.inBackticks "]"
  | .expectedObjectEnd => "expected " ++ Text.inBackticks "," ++ " or " ++ Text.inBackticks "\x7d"
  | .keyNotString => "key must be a string"
  | .trailingComma => "trailing comma"
  | .trailingCharacters => "trailing characters"
  | .invalidNumber => "invalid number"
  | .numberOutOfRange => "number out of range"
  | .invalidEscape => "invalid escape"
  | .controlCharacter => "control character (\\u0000-\\u001F) found while parsing a string"
  | .unpairedEscape => "unexpected end of hex escape"
  | .loneSurrogate => "lone leading surrogate in hex escape"
  | .nestedTooDeeply => "recursion limit exceeded"
  | .wrongType found expected =>
    "invalid type: " ++ found.message ++ ", expected " ++ expected.message
  | .wrongValue n expected =>
    "invalid value: integer " ++ Text.inBackticks (Integer.text n) ++ ", expected "
      ++ expected.message
  | .missingField name => "missing field " ++ Text.inBackticks name
  | .duplicateField name => "duplicate field " ++ Text.inBackticks name
  | .tooFewItems count record fields =>
    "invalid length " ++ Integer.natText count ++ ", expected struct " ++ record ++ " with "
      ++ Integer.natText fields ++ " elements"
  | .tooManyItems count =>
    "invalid length " ++ Integer.natText count ++ ", expected fewer elements in array"
  | .refused reason => reason

/-- The wording of a fault; the place follows where there is one. -/
def Fault.message (f : Fault) : String :=
  match f.place with
  | none => f.cause.message
  | some p =>
    f.cause.message ++ " at line " ++ Integer.natText p.line ++ " column "
      ++ Integer.natText p.column

end GivenNames.Json
