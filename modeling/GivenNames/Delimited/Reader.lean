import GivenNames.Delimited
import GivenNames.Integer

/-!
Reading delimited tables.

A line feed or a carriage return ends a record, one byte at a time, and line ends before a record
are passed over, so empty lines are no records. A quote opens a quoted field only at its start;
after the closing quote the field goes on as it stands. The end of the file ends the last record,
whatever is open. A byte order mark in front of the file is dropped.

The first record is the header. Every further one needs as many fields as the header, and the fields
of all have to be text. A faulty record is placed where the search for it began: after the one byte
that ended the record before it.
-/

namespace GivenNames.Delimited

/-! ### Records of bytes -/

/-- A point of a file: the bytes before it, and the line it lies on. -/
structure Place where
  offset : Nat
  line : Nat
  deriving DecidableEq, Repr

/-- The beginning of a file. -/
def Place.first : Place :=
  ⟨0, 1⟩

/-- The place after one more byte. -/
def Place.next (p : Place) (b : UInt8) : Place :=
  ⟨p.offset + 1, if b == Text.lineFeed then p.line + 1 else p.line⟩

/-- A record as it stands in the file, and the place where the search for it began. -/
structure Row where
  place : Place
  fields : List Text.Bytes
  deriving DecidableEq, Repr

/-- Where a field stands: before its first byte, in plain bytes, inside quotes, or just after a
quote that closes it or is the first of two. -/
inductive Mode where
  | start
  | plain
  | quoted
  | quoteSeen
  deriving DecidableEq, Repr

/-- Where the reading stands: between records, or in a field; `field` and `fields` hold what was
read of the field and the fields before it, both back to front. -/
inductive Standing where
  | between
  | inField (mode : Mode) (field : Text.Bytes) (fields : List Text.Bytes)
  deriving DecidableEq, Repr

/-- What one byte does to a record. -/
inductive Effect where
  | goOn (mode : Mode) (field : Text.Bytes)
  | endField
  | endRecord
  deriving DecidableEq, Repr

/-- What a byte does where a field may end. -/
def effectOutside (separator : Separator) (field : Text.Bytes) (b : UInt8) : Effect :=
  if b == separator.byte then .endField
  else if isTerminator b then .endRecord
  else .goOn .plain (b :: field)

/-- What a byte does in a field. -/
def effect (separator : Separator) (mode : Mode) (field : Text.Bytes) (b : UInt8) : Effect :=
  match mode with
  | .start => if b == quote then .goOn .quoted field else effectOutside separator field b
  | .plain => effectOutside separator field b
  | .quoted => if b == quote then .goOn .quoteSeen field else .goOn .quoted (b :: field)
  | .quoteSeen =>
    if b == quote then .goOn .quoted (b :: field) else effectOutside separator field b

/-- Reads records from a place on; `begun` is where the search for the next record began. -/
def rowsFrom (separator : Separator) (begun here : Place) : Standing → Text.Bytes → List Row
  | .between, [] => []
  | .inField _ field fields, [] => [⟨begun, (field.reverse :: fields).reverse⟩]
  | .between, b :: rest =>
    if isTerminator b then rowsFrom separator begun (here.next b) .between rest
    else
      match effect separator .start [] b with
      | .goOn mode field => rowsFrom separator begun (here.next b) (.inField mode field []) rest
      | .endField => rowsFrom separator begun (here.next b) (.inField .start [] [[]]) rest
      | .endRecord => rowsFrom separator begun (here.next b) .between rest
  | .inField mode field fields, b :: rest =>
    match effect separator mode field b with
    | .goOn mode field => rowsFrom separator begun (here.next b) (.inField mode field fields) rest
    | .endField =>
      rowsFrom separator begun (here.next b) (.inField .start [] (field.reverse :: fields)) rest
    | .endRecord =>
      ⟨begun, (field.reverse :: fields).reverse⟩
        :: rowsFrom separator (here.next b) (here.next b) .between rest

/-- The records of a file. -/
def rows (separator : Separator) (bytes : Text.Bytes) : List Row :=
  match bytes with
  | 0xEF :: 0xBB :: 0xBF :: rest => rowsFrom separator .first ⟨3, 1⟩ .between rest
  | bytes => rowsFrom separator .first .first .between bytes

/-! ### Records of text -/

/-- Why a record is refused. -/
inductive Cause where
  | fieldCount (found expected : Nat)
  | notText (field : Nat) (validUpTo : Nat)
  deriving DecidableEq, Repr

/-- A refused record: its number, the header being 0, its place, and the cause. -/
structure Fault where
  record : Nat
  place : Place
  cause : Cause
  deriving DecidableEq, Repr

/-- The wording of a fault. -/
def Fault.message (f : Fault) : String :=
  let record := Integer.natText f.record
  let line := Integer.natText f.place.line
  let offset := Integer.natText f.place.offset
  match f.cause with
  | .fieldCount found expected =>
    "CSV error: record " ++ record ++ " (line: " ++ line ++ ", byte: " ++ offset
      ++ "): found record with " ++ Integer.natText found
      ++ " fields, but the previous record has " ++ Integer.natText expected ++ " fields"
  | .notText field validUpTo =>
    let field := Integer.natText field
    "CSV parse error: record " ++ record ++ " (line " ++ line ++ ", field: " ++ field ++ ", byte: "
      ++ offset ++ "): invalid utf-8: invalid UTF-8 in field " ++ field ++ " near byte index "
      ++ Integer.natText validUpTo

/-- The texts of fields, the first of which has the given number. -/
def texts (number : Nat) : List Text.Bytes → Except Cause (List String)
  | [] => .ok []
  | field :: fields =>
    match Text.decode? field with
    | none => .error (.notText number (Text.validUpTo field))
    | some text => (texts (number + 1) fields).map (text :: ·)

/-- The texts of a record that should have `expected` fields. -/
def Row.texts (row : Row) (number expected : Nat) : Except Fault (List String) :=
  if row.fields.length ≠ expected then
    .error ⟨number, row.place, .fieldCount row.fields.length expected⟩
  else (Delimited.texts 0 row.fields).mapError fun cause => ⟨number, row.place, cause⟩

/-- A table as it was read: the header, and the records, each of them good or refused. -/
structure Table where
  header : Except Fault (List String)
  records : List (Except Fault (List String))

/-- Reads a file; one without any record has an empty header. -/
def read (separator : Separator) (bytes : Text.Bytes) : Table :=
  match rows separator bytes with
  | [] => ⟨.ok [], []⟩
  | header :: records =>
    ⟨header.texts 0 header.fields.length,
      (records.zipIdx 1).map fun (row, number) => row.texts number header.fields.length⟩

end GivenNames.Delimited
