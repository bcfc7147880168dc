import GivenNames.Text.Utf8

/-!
What a plain stream shows of a text that may hold control sequences for a terminal.

Control characters, but for the blank ones, and whole control sequences are left out: an escape with
the characters that belong to it, a command with its parameters, a device or title string up to its
end. A sequence without an end goes on to the end of the text. A blank control inside an escape or a
command is shown, and ends it.
-/

namespace GivenNames.Text

/-- Where a reader of control sequences stands: between them, behind an escape, in an escape of more
than one character, in a command, in the head of a device string (before, in and after its
parameters), in a string that only the control 9C ends, or in a title. -/
inductive Standing where
  | plain
  | escape
  | longEscape
  | command
  | device
  | deviceParameters
  | deviceTail
  | controlString
  | title
  deriving DecidableEq, Repr

namespace Standing

/-- Whether a byte is a blank control: tab, line feed, form feed or carriage return. -/
def isBlankControl (b : Nat) : Bool :=
  b == 0x09 || b == 0x0A || b == 0x0C || b == 0x0D

/-- Whether an ASCII character is shown. -/
def shows (s : Standing) (b : Nat) : Bool :=
  match s with
  | .plain => isBlankControl b || (0x20 ≤ b && b < 0x7F)
  | .escape | .longEscape | .command => isBlankControl b
  | .device | .deviceParameters | .deviceTail | .controlString | .title => false

/-- Where the reader stands after a byte behind an escape. -/
def afterEscape (b : Nat) : Standing :=
  if b == 0x5B then .command
  else if b == 0x5D then .title
  else if b == 0x50 then .device
  else if b == 0x58 || b == 0x5E || b == 0x5F then .controlString
  else if 0x20 ≤ b && b ≤ 0x2F then .longEscape
  else if 0x30 ≤ b && b ≤ 0x7E then .plain
  else .escape

/-- Where the reader stands after a byte in the head of a device string; `parameters` is where it
goes on after a sign that stands before parameters. -/
def afterDevice (s parameters : Standing) (b : Nat) : Standing :=
  if 0x20 ≤ b && b ≤ 0x2F then .deviceTail
  else if 0x30 ≤ b && b ≤ 0x3B then (if s = .deviceTail then .controlString else .deviceParameters)
  else if 0x3C ≤ b && b ≤ 0x3F then parameters
  else if 0x40 ≤ b && b ≤ 0x7E then .controlString
  else s

/-- Where the reader stands after a byte that belongs to where it stands. -/
def within (s : Standing) (b : Nat) : Standing :=
  match s with
  | .plain => .plain
  | .escape => afterEscape b
  | .longEscape => if 0x30 ≤ b && b ≤ 0x7E then .plain else .longEscape
  | .command => if 0x40 ≤ b && b ≤ 0x7E then .plain else .command
  | .device => afterDevice .device .deviceParameters b
  | .deviceParameters => afterDevice .deviceParameters .controlString b
  | .deviceTail => afterDevice .deviceTail .controlString b
  | .controlString => if b == 0x9C then .plain else .controlString
  | .title => if b == 0x07 then .plain else .title

/-- Where the reader stands after a byte. -/
def next (s : Standing) (b : Nat) : Standing :=
  if b == 0x1B then .escape
  else if b == 0x18 || b == 0x1A || s.shows b then .plain
  else s.within b

/-- Where the reader stands after a character, and whether that is shown. -/
def read (s : Standing) (c : Char) : Standing × Bool :=
  if c.toNat < 0x80 then (s.next c.toNat, s.shows c.toNat)
  else if s = .plain then (.plain, true)
  else ((encode c.toString).foldl (fun s b => s.next b.toNat) s, false)

end Standing

/-- What is shown of the characters that a reader meets. -/
def shownFrom (s : Standing) : List Char → List Char
  | [] => []
  | c :: cs =>
    match s.read c with
    | (s, true) => c :: shownFrom s cs
    | (s, false) => shownFrom s cs

/-- What is shown of a text. -/
def shown (s : String) : String :=
  String.ofList (shownFrom .plain s.toList)

end GivenNames.Text
