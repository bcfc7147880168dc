import GivenNames.Binary64.Shortest
import GivenNames.Integer
import GivenNames.Json

/-!
Writing JSON values: compact, members in the order of their list.

In a string only the quote, the backslash and the controls below the space are escaped; five of the
controls have a letter, the others their code point in four hexadecimal digits.
-/

namespace GivenNames.Json

/-- A hexadecimal digit. -/
def hexChar (n : Nat) : Char :=
  Nat.digitChar n

/-- A character inside a string. -/
def escapeChar (c : Char) : List Char :=
  if c = '"' then ['\\', '"']
  else if c = '\\' then ['\\', '\\']
  else if c = '\x08' then ['\\', 'b']
  else if c = '\x0c' then ['\\', 'f']
  else if c = '\n' then ['\\', 'n']
  else if c = '\r' then ['\\', 'r']
  else if c = '\t' then ['\\', 't']
  else if c.toNat < 0x20 then
    ['\\', 'u', '0', '0', hexChar (c.toNat / 16), hexChar (c.toNat % 16)]
  else [c]

/-- A string in its quotes. -/
def stringChars (s : String) : List Char :=
  '"' :: (s.toList.flatMap escapeChar ++ ['"'])

mutual

/-- The written form of a value. -/
def chars : Json → List Char
  | .null => ['n', 'u', 'l', 'l']
  | .bool true => ['t', 'r', 'u', 'e']
  | .bool false => ['f', 'a', 'l', 's', 'e']
  | .int n => Integer.chars n
  | .float x => x.chars
  | .string s => stringChars s
  | .array items => '[' :: (itemChars items ++ [']'])
  | .object members => '\x7b' :: (memberChars members ++ ['\x7d'])

/-- Items with commas between them. -/
def itemChars : List Json → List Char
  | [] => []
  | item :: items => item.chars ++ moreItemChars items

/-- Items with a comma before each. -/
def moreItemChars : List Json → List Char
  | [] => []
  | item :: items => ',' :: (item.chars ++ moreItemChars items)

/-- Members with commas between them. -/
def memberChars : List (String × Json) → List Char
  | [] => []
  | (key, value) :: members =>
    stringChars key ++ ':' :: (value.chars ++ moreMemberChars members)

/-- Members with a comma before each. -/
def moreMemberChars : List (String × Json) → List Char
  | [] => []
  | (key, value) :: members =>
    ',' :: (stringChars key ++ ':' :: (value.chars ++ moreMemberChars members))

end

/-- The written form of a value, as a text. -/
def text (value : Json) : String :=
  String.ofList value.chars

end GivenNames.Json
