import GivenNames.Pattern.Cursor

/-!
Reading what begins with a backslash.

A backslash before a sign that has a meaning of its own takes that meaning away. Before a letter it
gives one: a control, the number of a character, a class, a property, or a place.
-/

namespace GivenNames.Pattern.Reading

/-- Whether a character has a meaning of its own, at least in a class or where blanks count for
nothing. -/
def isMeta (c : Char) : Bool :=
  ['\\', '.', '+', '*', '?', '(', ')', '|', '[', ']', '\x7b', '\x7d', '^', '$', '#', '&', '-',
    '~'].contains c

/-- Whether a backslash before a character leaves the character as it is. -/
def isEscapable (c : Char) : Bool :=
  isMeta c || (c.toNat < 0x80 && !c.isAlphanum && c != '<' && c != '>')

/-! ### Numbers of characters -/

/-- The value of a hexadecimal digit. -/
def hexValue? (c : Char) : Option Nat :=
  if c.isDigit then some (c.toNat - '0'.toNat)
  else if 'a' ≤ c ∧ c ≤ 'f' then some (c.toNat - 'a'.toNat + 10)
  else if 'A' ≤ c ∧ c ≤ 'F' then some (c.toNat - 'A'.toNat + 10)
  else none

/-- The number of hexadecimal digits. -/
def hexNumber (digits : List Char) : Nat :=
  digits.foldl (fun n c => 16 * n + (hexValue? c).getD 0) 0

/-- The character of a number that is written in a span. -/
def scalar (digits : List Char) (span : Span) : Reading Char :=
  let n := hexNumber digits
  if n.isValidChar then return Char.ofNat n else refuse .hexNoScalar span

/-- Reads a fixed number of hexadecimal digits, of which the cursor stands before the first. -/
def fixedDigits : Nat → Reading (List Char)
  | 0 => return []
  | count + 1 => do
    match ← next? with
    | none => refuse .escapeAtEnd (← here)
    | some c =>
      if (hexValue? c).isNone then refuse .hexInvalidDigit (← charSpan)
      advance
      return c :: (← fixedDigits count)

/-- Reads the number of a character between braces. -/
def bracedNumber : Reading Char := do
  let brace ← place
  let first := (← charSpan).stop
  advance
  let digits ← takeAdvancing fun c => (hexValue? c).isSome
  match ← next? with
  | none => refuse .escapeAtEnd (← spanFrom brace)
  | some c =>
    if c != '\x7d' then refuse .hexInvalidDigit (← charSpan)
    let last ← place
    advance
    if digits.isEmpty then refuse .hexEmpty (← spanFrom brace)
    scalar digits ⟨first, last⟩

/-- Reads the number of a character, of so many digits or between braces, from the letter before
it. A number of two digits is that of a byte. -/
def numbered (start : Place) (count : Nat) : Reading Atom := do
  advance
  match ← next? with
  | none => refuse .escapeAtEnd (← here)
  | some c =>
    if c = '\x7b' then
      let char ← bracedNumber
      return .literal ⟨← spanFrom start, char, false⟩
    let first ← place
    let digits ← fixedDigits count
    let char ← scalar digits (← spanFrom first)
    return .literal ⟨← spanFrom start, char, count == 2⟩

/-! ### Properties -/

/-- What stands before and behind the first place where a text occurs. -/
def cutAt? (wanted : List Char) : List Char → Option (List Char × List Char)
  | [] => none
  | c :: cs =>
    if wanted.isPrefixOf (c :: cs) then some ([], (c :: cs).drop wanted.length)
    else (cutAt? wanted cs).map fun (before, behind) => (c :: before, behind)

/-- The property that a text between braces names, and whether that is denied. -/
def propertyOfText (text : List Char) : PropertyName × Bool :=
  let named := fun (cut : List Char × List Char) =>
    PropertyName.withValue (String.ofList cut.1) (String.ofList cut.2)
  match cutAt? ['!', '='] text with
  | some cut => (named cut, true)
  | none =>
    match (cutAt? [':'] text).or (cutAt? ['='] text) with
    | some cut => (named cut, false)
    | none => (.alone (String.ofList text), false)

/-- Reads a property, from the letter before it. -/
def property (start : Place) (negated : Bool) : Reading Atom := do
  advance
  match ← next? with
  | none => refuse .escapeAtEnd (← here)
  | some c =>
    if c = '\x7b' then
      advance
      let text ← takeAdvancing (· != '\x7d')
      if (← next?).isNone then refuse .escapeAtEnd (← here)
      bump
      let (name, denied) := propertyOfText text
      return .property (← spanFrom start) name (negated != denied)
    if c = '\\' then refuse .propertyEscape (← charSpan)
    advance
    return .property (← spanFrom start) (.alone c.toString) negated

/-! ### Places -/

/-- The places that have a name. -/
def anchorNamed? (name : String) : Option Anchor :=
  [("start", .wordStart), ("end", .wordEnd), ("start-half", .noWordBefore),
    ("end-half", .noWordAfter)].lookup name

/-- Whether a character may stand in the name of a place. -/
def isAnchorChar (c : Char) : Bool :=
  c.isAlpha || c = '-'

/-- Reads the name of a place between braces; braces with another content are left for a number of
repetitions. -/
def namedAnchor? (start : Place) : Reading (Option Anchor) := do
  let before ← get
  let brace ← place
  advance
  match ← next? with
  | none => refuse .edgeAtEnd (← spanFrom start)
  | some c =>
    if !isAnchorChar c then
      set before
      return none
    let first ← place
    let name ← takeAdvancing isAnchorChar
    if (← next?) != some '\x7d' then refuse .edgeUnclosed (← spanFrom brace)
    let named ← spanFrom first
    bump
    match anchorNamed? (String.ofList name) with
    | some a => return some a
    | none => refuse .edgeUnknown named

/-- Reads the edge of a word, behind its letter. -/
def edge (start : Place) : Reading Atom := do
  let a ← if (← next?) = some '\x7b' then namedAnchor? start else pure none
  return .anchor (← spanFrom start) (a.getD .wordEdge)

/-! ### All of them -/

/-- The classes that a letter stands for, and whether they are denied. -/
def shortClass? : Char → Option (ShortClass × Bool)
  | 'd' => some (.digit, false)
  | 'D' => some (.digit, true)
  | 's' => some (.space, false)
  | 'S' => some (.space, true)
  | 'w' => some (.word, false)
  | 'W' => some (.word, true)
  | _ => none

/-- The controls that a letter stands for. -/
def control? : Char → Option Char
  | 'a' => some '\x07'
  | 'f' => some '\x0c'
  | 't' => some '\t'
  | 'n' => some '\n'
  | 'r' => some '\r'
  | 'v' => some '\x0b'
  | _ => none

/-- The places that a letter or a sign stands for. -/
def anchor? : Char → Option Anchor
  | 'A' => some .textStart
  | 'z' => some .textEnd
  | 'B' => some .noWordEdge
  | '<' => some .wordStart
  | '>' => some .wordEnd
  | _ => none

/-- Reads what one character behind a backslash stands for. -/
def simpleEscape (start : Place) (c : Char) : Reading Atom := do
  bump
  let span ← spanFrom start
  if isEscapable c then return .literal ⟨span, c, false⟩
  if c = 'b' then edge start
  else
    match shortClass? c, control? c, anchor? c with
    | some (short, negated), _, _ => return .short span short negated
    | _, some char, _ => return .literal ⟨span, char, false⟩
    | _, _, some a => return .anchor span a
    | _, _, _ => refuse .escapeUnknown span

/-- Reads what begins with a backslash. -/
def escape : Reading Atom := do
  let start ← place
  bump
  match ← next? with
  | none => refuse .escapeAtEnd (← spanFrom start)
  | some c =>
    if c.isDigit then refuse .backreference ⟨start, (← charSpan).stop⟩
    else if c = 'x' then numbered start 2
    else if c = 'u' then numbered start 4
    else if c = 'U' then numbered start 8
    else if c = 'p' then property start false
    else if c = 'P' then property start true
    else simpleEscape start c

end GivenNames.Pattern.Reading
