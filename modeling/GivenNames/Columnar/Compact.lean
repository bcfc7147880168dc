import GivenNames.Text.Utf8

/-!
Compact records: trees of numbered fields, written without blanks or names.

Every field has a head with the wire type of its value and the distance of its number from the one
before. What is read where is given by shapes; fields that no shape knows are skipped by their wire
type. The first fault ends the reading.
-/

namespace GivenNames.Columnar.Compact

/-- Why bytes are no record of the wanted shape. -/
inductive Fault where
  | endOfFile
  | missingField
  | badData
  | unsupported
  | tooDeep
  deriving DecidableEq, Repr

def Fault.message : Fault → String
  | .endOfFile => "end of file"
  | .missingField => "protocol error"
  | .badData => "bad data"
  | .unsupported => "not implemented"
  | .tooDeep => "maximum skip depth reached"

/-- The wire types. -/
inductive Wire where
  | stop
  | truth
  | byte
  | integer
  | double
  | bytes
  | list
  | set
  | map
  | record
  deriving DecidableEq, Repr

/-- The wire type of a code. -/
def Wire.ofCode? : Nat → Option Wire
  | 0 => some .stop
  | 1 | 2 => some .truth
  | 3 => some .byte
  | 4 | 5 | 6 => some .integer
  | 7 => some .double
  | 8 => some .bytes
  | 9 => some .list
  | 10 => some .set
  | 11 => some .map
  | 12 => some .record
  | _ => none

/-- The shapes of values. A record has fields, each with its number, whether it has to be there, and
its shape; a choice has exactly one of its fields. -/
inductive Shape where
  | truth
  | byte
  | integer
  | bytes
  | text
  | list (element : Shape)
  | record (fields : List (Nat × Bool × Shape))
  | choice (fields : List (Nat × Shape))

/-- What was read; of values that decide nothing it is only known that they are there. -/
inductive Value where
  | plain
  | list (elements : List Value)
  | record (fields : List (Nat × Value))

/-- The value of a field; the last one counts where there are more. -/
def Value.field? : Value → Nat → Option Value
  | .record fields, number => (fields.reverse.find? fun f => f.1 == number).map Prod.snd
  | _, _ => none

/-! ### Bytes -/

/-- The bytes that are left, and a truth value that the head of a field has told already. -/
structure Source where
  rest : Text.Bytes
  told : Option Bool

/-- Reading from a source. -/
abbrev Read := StateT Source (Except Fault)

def byte : Read UInt8 := do
  match (← get).rest with
  | [] => throw .endOfFile
  | b :: rest => modify ({ · with rest := rest }); return b

/-- The next bytes, of a number. -/
def bytes (n : Nat) : Read Text.Bytes := do
  let s ← get
  if s.rest.length < n then throw .endOfFile
  modify ({ · with rest := s.rest.drop n })
  return s.rest.take n

/-- A number in groups of seven bits, the lowest first, on top of what stands below a shift; the
last group has no mark. -/
def groupsFrom (shift sum : UInt64) : Text.Bytes → Except Fault (UInt64 × Text.Bytes)
  | [] => .error .endOfFile
  | b :: rest =>
    let sum := sum ||| ((b &&& 0x7F).toUInt64 <<< shift)
    if b < 0x80 then .ok (sum, rest) else groupsFrom (shift + 7) sum rest

/-- A number in groups of seven bits. -/
def unsigned : Read UInt64 := do
  match groupsFrom 0 0 (← get).rest with
  | .ok (n, rest) => modify ({ · with rest := rest }); return n
  | .error fault => throw fault

/-- A number whose lowest bit is its sign. -/
def signed : Read UInt64 := do
  let n ← unsigned
  return (n >>> 1) ^^^ (0 - (n &&& 1))

def truth : Read Bool := do
  match (← get).told with
  | some b => modify ({ · with told := none }); return b
  | none =>
    match (← byte).toNat with
    | 0 | 2 => return false
    | 1 => return true
    | _ => throw .badData

def sized : Read Text.Bytes := do
  bytes (← unsigned).toNat

def text : Read Text.Bytes := do
  let bs ← sized
  if (Text.decode? bs).isNone then throw .badData
  return bs

/-! ### Heads -/

/-- The wire type of a code, if it has one. -/
def wire (code : Nat) : Read Wire :=
  match Wire.ofCode? code with
  | some w => return w
  | none => throw .badData

/-- The wire type and the number of the field that comes next, by the number of the one before. -/
def fieldHead (before : UInt16) : Read (Wire × UInt16) := do
  let head := (← byte).toNat
  let code := head % 16
  if code == 1 || code == 2 then modify ({ · with told := some (code == 1) })
  let w ← wire code
  if w = .stop then return (w, 0)
  if head / 16 = 0 then return (w, (← signed).toUInt16)
  return (w, before + UInt16.ofNat (head / 16))

/-- The wire type and the number of the elements of a list. -/
def listHead : Read (Wire × Nat) := do
  let head := (← byte).toNat
  let w ← wire (head % 16)
  if head / 16 < 15 then return (w, head / 16)
  return (w, (← unsigned).toUInt32.toInt32.toInt.toNat)

/-! ### Skipping -/

mutual

/-- Skips a value of a wire type, up to a depth of values within values. -/
def skip : Nat → Nat → Wire → Read Unit
  | 0, _, _ => throw .endOfFile
  | _ + 1, 0, _ => throw .tooDeep
  | fuel + 1, depth + 1, w =>
    match w with
    | .stop => throw .missingField
    | .truth => discard truth
    | .byte => discard byte
    | .integer => discard signed
    | .double => discard (bytes 8)
    | .bytes => discard text
    | .set | .map => throw .unsupported
    | .list => do
      let (w, n) ← listHead
      skipElements fuel depth n w
    | .record => skipFields fuel depth 0

/-- Skips the elements of a list. -/
def skipElements : Nat → Nat → Nat → Wire → Read Unit
  | 0, _, _, _ => throw .endOfFile
  | _ + 1, _, 0, _ => return ()
  | fuel + 1, depth, n + 1, w => do
    skip fuel depth w
    skipElements fuel depth n w

/-- Skips the fields of a record, behind the field of a number. -/
def skipFields : Nat → Nat → UInt16 → Read Unit
  | 0, _, _ => throw .endOfFile
  | fuel + 1, depth, before => do
    let (w, number) ← fieldHead before
    if w = .stop then return ()
    skip fuel depth w
    skipFields fuel depth number

end

/-- The depth up to which unknown fields are skipped. -/
def skipDepth : Nat := 64

/-! ### Reading -/

/-- Whether every field that has to be there is. -/
def hasRequired (fields : List (Nat × Bool × Shape)) (found : List (Nat × Value)) : Bool :=
  fields.all fun (number, required, _) => !required || found.any fun f => f.1 == number

mutual

/-- Reads a value of a shape. -/
def value : Nat → Shape → Read Value
  | 0, _ => throw .endOfFile
  | fuel + 1, shape =>
    match shape with
    | .truth => do discard truth; return .plain
    | .byte => do discard byte; return .plain
    | .integer => do discard signed; return .plain
    | .bytes => do discard sized; return .plain
    | .text => do discard text; return .plain
    | .list element => do
      let (_, n) ← listHead
      return .list (← elements fuel n element)
    | .record fields => do
      let found ← fieldsFrom fuel (fields.map fun (number, _, shape) => (number, shape)) 0
      if hasRequired fields found then return .record found
      throw .missingField
    | .choice fields => do
      let found ← fieldsFrom fuel fields 0
      if found.length = 1 then return .record found
      throw .badData

/-- Reads the elements of a list. -/
def elements : Nat → Nat → Shape → Read (List Value)
  | 0, _, _ => throw .endOfFile
  | _ + 1, 0, _ => return []
  | fuel + 1, n + 1, shape => do
    let v ← value fuel shape
    return v :: (← elements fuel n shape)

/-- Reads the fields of a record, behind the field of a number. -/
def fieldsFrom : Nat → List (Nat × Shape) → UInt16 → Read (List (Nat × Value))
  | 0, _, _ => throw .endOfFile
  | fuel + 1, fields, before => do
    let (w, number) ← fieldHead before
    if w = .stop then return []
    match fields.find? fun f => f.1 == number.toNat with
    | some (_, shape) => do
      let v ← value fuel shape
      return (number.toNat, v) :: (← fieldsFrom fuel fields number)
    | none => do
      skip fuel skipDepth w
      return (number.toNat, .plain) :: (← fieldsFrom fuel fields number)

end

/-- The value of a shape that bytes begin with. Every head takes a byte, so that the depth of the
reading is bounded by their number. -/
def read (shape : Shape) (bs : Text.Bytes) : Except Fault Value :=
  ((value (3 * bs.length + 3) shape).run ⟨bs, none⟩).map Prod.fst

end GivenNames.Columnar.Compact
