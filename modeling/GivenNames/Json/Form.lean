import GivenNames.Json.Reader
import GivenNames.Json.Skip

/-!
Typed forms of JSON.

A form says how a type is taken from JSON, in two ways: straight from a text, with the place of a
fault, and from a value that was read earlier. The forms here are built from integers of a range,
strings, lists, optional values, checked values and records.

A record is given by its slots. As an object its members come in any order, unknown ones are passed
over, and a slot may be filled once; as an array its items fill the slots in order. Slots that are
not required may stay as they are in the blank record.
-/

namespace GivenNames.Json

/-- How values of a type are taken from JSON. From text, the first argument is the number of arrays
and objects that may still be opened. -/
structure Form (α : Type) where
  read : Nat → List Char → Step α
  ofValue : Json → Except Cause α

/-- What a value is, in the words of messages. -/
def found : Json → Found
  | .null => .null
  | .bool b => .bool b
  | .int n => .int n
  | .float x => .float x
  | .string s => .text s
  | .array _ => .sequence
  | .object _ => .members

/-- A value of another type stands where `expected` should, or none at all. A scalar is read to its
end first; an array or an object is not entered. -/
def mismatch (expected : Expected) (rest : List Char) : Failure :=
  let scalar := fun (step : Step Json) =>
    match step with
    | .error f => f
    | .ok (value, rest) => failHere (.wrongType value.found expected) rest
  match rest with
  | [] => failNext .endOfValue []
  | '[' :: _ => failHere (.wrongType .sequence expected) rest
  | '\x7b' :: _ => failHere (.wrongType .members expected) rest
  | _ => scalar (readValue 0 rest)

namespace Form

/-! ### Simple forms -/

/-- Any value. -/
def value : Form Json where
  read := readValue
  ofValue := .ok

/-- An integer of a closed range. -/
def integer (lo hi : Int) (expected : Expected) : Form Int :=
  let check := fun (value : Json) =>
    match value with
    | .int n => if lo ≤ n ∧ n ≤ hi then .ok n else .error (.wrongValue n expected)
    | value => .error (.wrongType value.found expected)
  { read := fun _ rest =>
      let rest := skipSpace rest
      let numeral := fun (step : Step Json) =>
        match step with
        | .error f => .error f
        | .ok (value, rest) =>
          match check value with
          | .ok n => .ok (n, rest)
          | .error cause => .error (failHere cause rest)
      match rest with
      | '-' :: digits => numeral (readNumber true digits)
      | c :: _ =>
        if c.isDigit then numeral (readNumber false rest)
        else .error (mismatch expected rest)
      | [] => .error (mismatch expected [])
    ofValue := check }

/-- A string. -/
def string : Form String where
  read := fun _ rest =>
    match skipSpace rest with
    | '"' :: rest => (readString rest).map fun (cs, rest) => (String.ofList cs, rest)
    | rest => .error (mismatch .text rest)
  ofValue := fun value =>
    match value with
    | .string s => .ok s
    | value => .error (.wrongType value.found .text)

variable {α β : Type}

/-- What a function makes of a value of another form. -/
def map (f : α → β) (form : Form α) : Form β where
  read := fun nesting rest => (form.read nesting rest).map fun (x, rest) => (f x, rest)
  ofValue := fun value => (form.ofValue value).map f

/-- A value of another form that passes a check; the check gives the reason where it does not. -/
def checked (form : Form α) (check : α → Except String β) : Form β where
  read := fun nesting rest =>
    match form.read nesting rest with
    | .error f => .error f
    | .ok (x, rest) =>
      match check x with
      | .ok y => .ok (y, rest)
      | .error reason => .error (.loose (.refused reason) rest)
  ofValue := fun value =>
    match form.ofValue value with
    | .error cause => .error cause
    | .ok x => (check x).mapError .refused

/-- Null, or a value of another form. -/
def optional (form : Form α) : Form (Option α) where
  read := fun nesting rest =>
    match skipSpace rest with
    | 'n' :: rest => (readWord ['u', 'l', 'l'] rest).map fun rest => (none, rest)
    | rest => (form.read nesting rest).map fun (x, rest) => (some x, rest)
  ofValue := fun value =>
    match value with
    | .null => .ok none
    | value => (form.ofValue value).map some

/-- An array of values of another form. -/
def list (form : Form α) : Form (List α) where
  read := fun nesting rest =>
    match skipSpace rest with
    | '[' :: rest =>
      match nesting with
      | 0 => .error (failNext .nestedTooDeeply ('[' :: rest))
      | nesting + 1 =>
        match readItems (form.read nesting) (itemFuel rest) true rest with
        | .error f => .error f.closedByArray
        | .ok (items, rest) => (closeArray rest).map fun rest => (items, rest)
    | rest => .error (mismatch .sequence rest)
  ofValue := fun value =>
    match value with
    | .array items => items.mapM form.ofValue
    | value => .error (.wrongType value.found .sequence)

end Form

/-! ### Records -/

/-- A member of a record: its name, other keys it is known by, whether it must be there, and the
form of what it does to the record. -/
structure Slot (α : Type) where
  name : String
  aliases : List String
  required : Bool
  form : Form (α → α)

/-- A slot that puts a value of a form into the record. -/
def Slot.of {α β : Type} (name : String) (aliases : List String) (required : Bool) (form : Form β)
    (put : β → α → α) : Slot α :=
  ⟨name, aliases, required, form.map put⟩

/-- Whether a key stands for a slot. -/
def Slot.isFor {α : Type} (slot : Slot α) (key : String) : Bool :=
  slot.name == key || slot.aliases.contains key

/-- A record that is being filled, and the names of the slots that are. -/
structure Filling (α : Type) where
  record : α
  filled : List String

namespace Filling

variable {α : Type}

/-- The record with a slot filled. -/
def fill (filling : Filling α) (slot : Slot α) (put : α → α) : Filling α :=
  ⟨put filling.record, slot.name :: filling.filled⟩

/-- Whether a slot is filled. -/
def has (filling : Filling α) (slot : Slot α) : Bool :=
  filling.filled.contains slot.name

/-- The first required slot that is not filled. -/
def missing? (filling : Filling α) (slots : List (Slot α)) : Option (Slot α) :=
  slots.find? fun slot => slot.required && !filling.has slot

/-- Takes one member of a record from text, after its key. -/
def readMember (slots : List (Slot α)) (nesting : Nat) (filling : Filling α) (key : String)
    (rest : List Char) : Step (Filling α) :=
  match slots.find? (·.isFor key) with
  | none =>
    match readColon rest with
    | .error f => .error f
    | .ok rest => (skipValue rest).map fun rest => (filling, rest)
  | some slot =>
    if filling.has slot then .error (.loose (.duplicateField slot.name) rest)
    else
      match readColon rest with
      | .error f => .error f
      | .ok rest =>
        (slot.form.read nesting rest).map fun (put, rest) => (filling.fill slot put, rest)

/-- Takes the members of a record from an object. -/
def ofMembers (slots : List (Slot α)) (filling : Filling α) :
    List (String × Json) → Except Cause (Filling α)
  | [] => .ok filling
  | (key, value) :: members =>
    match slots.find? (·.isFor key) with
    | none => ofMembers slots filling members
    | some slot =>
      if filling.has slot then .error (.duplicateField slot.name)
      else
        match slot.form.ofValue value with
        | .error cause => .error cause
        | .ok put => ofMembers slots (filling.fill slot put) members

end Filling

namespace Form

variable {α : Type}

/-- Fills slots from the items of an array in a text; `count` items were taken before. -/
def readSlots (name : String) (fields nesting : Nat) :
    List (Slot α) → Bool → Nat → α → List Char → Step α
  | [], _, _, record, rest => .ok (record, rest)
  | slot :: slots, first, count, record, rest =>
    match nextItem first rest with
    | .error f => .error f
    | .ok none =>
      if slot.required then .error (.loose (.tooFewItems count name fields) rest)
      else readSlots name fields nesting slots first (count + 1) record rest
    | .ok (some rest) =>
      match slot.form.read nesting rest with
      | .error f => .error f
      | .ok (put, rest) => readSlots name fields nesting slots false (count + 1) (put record) rest

/-- Fills slots from the items of an array, and gives the items left over. -/
def slotsOfItems (name : String) (fields : Nat) :
    List (Slot α) → Nat → α → List Json → Except Cause (α × List Json)
  | [], _, record, items => .ok (record, items)
  | slot :: slots, count, record, [] =>
    if slot.required then .error (.tooFewItems count name fields)
    else slotsOfItems name fields slots (count + 1) record []
  | slot :: slots, count, record, item :: items =>
    match slot.form.ofValue item with
    | .error cause => .error cause
    | .ok put => slotsOfItems name fields slots (count + 1) (put record) items

/-- Takes a record from an array in a text, after its bracket. -/
def readItemRecord (name : String) (slots : List (Slot α)) (blank : α) (nesting : Nat)
    (rest : List Char) : Step α :=
  match readSlots name slots.length nesting slots true 0 blank rest with
  | .error f => .error f.closedByArray
  | .ok (record, rest) => (closeArray rest).map fun rest => (record, rest)

/-- Takes a record from an object in a text, after its brace. -/
def readMemberRecord (slots : List (Slot α)) (blank : α) (nesting : Nat) (rest : List Char) :
    Step α :=
  match readMembers (Filling.readMember slots nesting) (itemFuel rest) true ⟨blank, []⟩ rest with
  | .error f => .error f.closedByObject
  | .ok (filling, rest) =>
    match filling.missing? slots with
    | some slot => .error (Failure.loose (.missingField slot.name) rest).closedByObject
    | none => (closeObject rest).map fun rest => (filling.record, rest)

/-- A record with a name for messages, its slots, and its blank state. -/
def record (name : String) (slots : List (Slot α)) (blank : α) : Form α where
  read := fun nesting rest =>
    match skipSpace rest with
    | '[' :: rest =>
      match nesting with
      | 0 => .error (failNext .nestedTooDeeply ('[' :: rest))
      | nesting + 1 => readItemRecord name slots blank nesting rest
    | '\x7b' :: rest =>
      match nesting with
      | 0 => .error (failNext .nestedTooDeeply ('\x7b' :: rest))
      | nesting + 1 => readMemberRecord slots blank nesting rest
    | rest => .error (mismatch (.record name) rest)
  ofValue := fun value =>
    match value with
    | .array items =>
      match slotsOfItems name slots.length slots 0 blank items with
      | .error cause => .error cause
      | .ok (record, []) => .ok record
      | .ok (_, _) => .error (.tooManyItems items.length)
    | .object members =>
      match Filling.ofMembers slots ⟨blank, []⟩ members with
      | .error cause => .error cause
      | .ok filling =>
        match filling.missing? slots with
        | some slot => .error (.missingField slot.name)
        | none => .ok filling.record
    | value => .error (.wrongType value.found (.record name))

/-- Takes a value from a whole text. -/
def parse (form : Form α) (text : String) : Except Fault α :=
  (finish (form.read maxNesting text.toList)).mapError (Failure.fault text)

/-! ### Words -/

/-- A signed word of 32 bits. -/
def int32 : Form Int32 :=
  (integer (-0x80000000) 0x7fffffff .int32).map Int32.ofInt

/-- A signed word of 64 bits. -/
def int64 : Form Int64 :=
  (integer (-0x8000000000000000) 0x7fffffffffffffff .int64).map Int64.ofInt

/-- An unsigned word of 64 bits. -/
def uint64 : Form UInt64 :=
  (integer 0 0xffffffffffffffff .uint64).map fun n => n.toNat.toUInt64

/-- An unsigned word of 8 bits. -/
def uint8 : Form UInt8 :=
  (integer 0 255 .uint8).map fun n => n.toNat.toUInt8

end Form

end GivenNames.Json
