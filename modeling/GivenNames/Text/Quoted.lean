import GivenNames.Unicode.Category

/-!
Quoted text, as messages show it. Names and values stand as they are between apostrophes or between
backticks. A string stands between double quotes, with a backslash before quotes and backslashes,
short escapes for the common controls, and the code point in braces for every other character that
has no glyph of its own or attaches to the character before it. The halfwidth sound marks are the
one exception: they attach, but take a place of their own and stand as they are.
-/

namespace GivenNames.Text

/-- A text between apostrophes. -/
def inApostrophes (s : String) : String :=
  "\x27" ++ s ++ "\x27"

/-- A text between backticks. -/
def inBackticks (s : String) : String :=
  "\x60" ++ s ++ "\x60"

/-- The voiced and the semi-voiced sound mark of halfwidth kana. -/
def isHalfwidthSoundMark (c : Char) : Bool :=
  c = '\uff9e' || c = '\uff9f'

/-- Whether a character shows as itself between quotes. -/
def isPlain (c : Char) : Bool :=
  if c.toNat < 128 then 0x20 ≤ c.toNat && c.toNat < 0x7F
  else isHalfwidthSoundMark c || !(Unicode.isGraphemeExtend c.toNat
    || Unicode.isUnprintable c.toNat || Unicode.isHangulFiller c.toNat)

/-- One character between quotes. -/
def quoteChar (c : Char) : List Char :=
  if c = '\x00' then ['\\', '0']
  else if c = '\t' then ['\\', 't']
  else if c = '\r' then ['\\', 'r']
  else if c = '\n' then ['\\', 'n']
  else if c = '"' || c = '\\' then ['\\', c]
  else if isPlain c then [c]
  else ['\\', 'u', '\x7b'] ++ Nat.toDigits 16 c.toNat ++ ['\x7d']

/-- The text between quotes. -/
def quoted (s : String) : String :=
  String.ofList (['"'] ++ s.toList.flatMap quoteChar ++ ['"'])

end GivenNames.Text
