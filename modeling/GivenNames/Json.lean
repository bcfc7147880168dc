import GivenNames.Binary64
import GivenNames.Tally

/-!
JSON values.

A number is an integer where it is written as one and fits the 64-bit words (signed below zero,
unsigned above); every other number is a floating-point number. Members keep the order of their
list: a value that was read has them in key order, an answer that is about to be written has them in
the order of its fields. `Json.sorted` brings any value into key order.
-/

namespace GivenNames

/-- A JSON value. -/
inductive Json where
  | null
  | bool (b : Bool)
  | int (n : Int)
  | float (x : Binary64)
  | string (s : String)
  | array (items : List Json)
  | object (members : List (String × Json))
  deriving Repr

namespace Json

/-- Members in key order with one more; a later value replaces an earlier one. -/
def setMember (key : String) (value : Json) (members : List (String × Json)) :
    List (String × Json) :=
  Tally.alterAt key (fun _ => value) members

mutual

/-- The value with the members of every object in key order; of two members with one key the later
one stays. -/
def sorted : Json → Json
  | .array items => .array (sortedItems items)
  | .object members => .object (sortedMembers members [])
  | value => value

/-- Every item in key order. -/
def sortedItems : List Json → List Json
  | [] => []
  | item :: items => item.sorted :: sortedItems items

/-- The members, each in key order, put into the members already gathered. -/
def sortedMembers : List (String × Json) → List (String × Json) → List (String × Json)
  | [], gathered => gathered
  | (key, value) :: members, gathered =>
    sortedMembers members (setMember key value.sorted gathered)

end

/-- An integer or nothing. -/
def ofInt? : Option Int → Json
  | some n => .int n
  | none => .null

/-- A string or nothing. -/
def ofString? : Option String → Json
  | some s => .string s
  | none => .null

end Json

end GivenNames
