import GivenNames.Json.Fault

/-!
Data that is to be written as JSON, before it is a JSON value.

The keys of a map are data themselves, but the members of an object have texts as their keys. So
data is written in a step that may fail: a map is only written if its keys are texts, or numbers,
which are written out.
-/

namespace GivenNames.Json

/-- Data to be written: numbers, texts, lists, records with names for their fields, and maps. -/
inductive Datum where
  | int (n : Int)
  | text (s : String)
  | list (items : List Datum)
  | record (fields : List (String × Datum))
  | map (entries : List (Datum × Datum))
  deriving Repr

namespace Datum

/-- The text that a key of a map is written as. -/
def key : Datum → Except Cause String
  | .int n => .ok (Integer.text n)
  | .text s => .ok s
  | _ => .error .keyNotString

mutual

/-- The value that data is written as. -/
def toJson : Datum → Except Cause Json
  | .int n => .ok (.int n)
  | .text s => .ok (.string s)
  | .list items => (itemsToJson items).map .array
  | .record fields => (fieldsToJson fields).map .object
  | .map entries => (entriesToJson entries).map .object

/-- The values of items, one after the other. -/
def itemsToJson : List Datum → Except Cause (List Json)
  | [] => .ok []
  | item :: items => do
    let value ← item.toJson
    let values ← itemsToJson items
    return value :: values

/-- The members that fields are written as. -/
def fieldsToJson : List (String × Datum) → Except Cause (List (String × Json))
  | [] => .ok []
  | (name, datum) :: fields => do
    let value ← datum.toJson
    let members ← fieldsToJson fields
    return (name, value) :: members

/-- The members that the entries of a map are written as, each key before its value. -/
def entriesToJson : List (Datum × Datum) → Except Cause (List (String × Json))
  | [] => .ok []
  | (key, datum) :: entries => do
    let word ← key.key
    let value ← datum.toJson
    let members ← entriesToJson entries
    return (word, value) :: members

end

end Datum

end GivenNames.Json
