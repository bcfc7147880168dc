import GivenNames.Pattern.Escape

/-!
Reading classes in brackets.

A class lists characters, ranges and other classes, and may be nested; two lists can be joined by
an operation, which takes all that stands before it in its brackets. A closing bracket in front
stands for itself, and so do dashes in front.
-/

namespace GivenNames.Pattern.Reading

/-- Brackets that are open: where they begin and what they begin with, whether they are negated, the
list before the last operation with that operation, and the list at hand, back to front. -/
structure OpenBracket where
  opening : Span
  negated : Bool
  joined : Option (SetOperation × ClassItem)
  first : Place
  items : List ClassItem

namespace OpenBracket

def push (b : OpenBracket) (item : ClassItem) : OpenBracket :=
  { b with items := item :: b.items }

/-- The list at hand as one item. -/
def list (b : OpenBracket) : ClassItem :=
  match b.items, b.items.getLast? with
  | [item], _ => item
  | last :: _, some first => .union ⟨first.span.first, last.span.stop⟩ b.items.reverse
  | _, _ => .union ⟨b.first, b.first⟩ []

/-- All that stands in the brackets as one item. -/
def content (b : OpenBracket) : ClassItem :=
  match b.joined with
  | none => b.list
  | some (op, left) => .operation ⟨left.span.first, b.list.span.stop⟩ op left b.list

/-- Joins what stands in the brackets to the list that comes next. -/
def join (b : OpenBracket) (op : SetOperation) (first : Place) : OpenBracket :=
  { b with joined := some (op, b.content), first := first, items := [] }

end OpenBracket

/-! ### Opening -/

/-- The fault of brackets that are not closed. -/
def unclosed {α : Type} (span : Span) : Reading α :=
  refuse .classUnclosed span

/-- Reads the dashes in front of a class; `fuel` bounds their number. -/
def leadingDashes (start : Place) : Nat → OpenBracket → Reading OpenBracket
  | 0, b => return b
  | fuel + 1, b => do
    if (← next?) = some '-' then
      let b := b.push (.literal ⟨← charSpan, '-', false⟩)
      advance
      if (← next?).isNone then unclosed ⟨start, start⟩
      leadingDashes start fuel b
    else return b

/-- Passes the next character; something has to follow it. -/
def advanceWithin (start : Place) : Reading Unit := do
  advance
  if (← next?).isNone then unclosed (← spanFrom start)

/-- Reads what a class begins with. -/
def openBracket : Reading OpenBracket := do
  let start ← place
  advanceWithin start
  let negated := (← next?) = some '^'
  if negated then advanceWithin start
  let b ← leadingDashes start (← get).rest.length ⟨← here, negated, none, ← place, []⟩
  if b.items.isEmpty ∧ (← next?) = some ']' then
    let b := b.push (.literal ⟨← charSpan, ']', false⟩)
    advanceWithin start
    return { b with opening := ← spanFrom start }
  return { b with opening := ← spanFrom start }

/-! ### Items -/

/-- The classes that have a name. -/
def namedClass? (name : String) : Option NamedClass :=
  [("alnum", .alnum), ("alpha", .alpha), ("ascii", .ascii), ("blank", .blank), ("cntrl", .cntrl),
    ("digit", .digit), ("graph", .graph), ("lower", .lower), ("print", .print), ("punct", .punct),
    ("space", .space), ("upper", .upper), ("word", .word),
    ("xdigit", NamedClass.xdigit)].lookup name

/-- Reads a class with a name between colons; anything else is left as it is. -/
def named? : Reading (Option ClassItem) := do
  let before ← get
  let start ← place
  if ← passes "[:" then
    let negated ← passes "^"
    let name ← takeBumping (· != ':')
    if ← passes ":]" then
      match namedClass? (String.ofList name) with
      | some c => return some (.named (← spanFrom start) c negated)
      | none => pure ()
  set before
  return none

/-- Reads a character of a class, or what begins with a backslash. -/
def classAtom (c : Char) : Reading Atom := do
  if c = '\\' then escape
  else
    let span ← charSpan
    bump
    return .literal ⟨span, c, false⟩

/-- An atom as an item of a class. -/
def itemOfAtom : Atom → Reading ClassItem
  | .literal l => return .literal l
  | .short span c negated => return .short span c negated
  | .property span name negated => return .property span name negated
  | .dot span => refuse .classEscape span
  | .anchor span _ => refuse .classEscape span

/-- An atom as an end of a range. -/
def boundary : Atom → Reading Literal
  | .literal l => return l
  | a => refuse .rangeBoundary a.span

/-- Reads a character, a range or a class by its letter; `opening` is what is left unclosed where
the pattern ends. -/
def classItem (opening : Span) (c : Char) : Reading ClassItem := do
  let a ← classAtom c
  skipBlanks
  let cursor ← get
  let second := cursor.secondSkipping?
  match cursor.rest with
  | [] => unclosed opening
  | d :: _ =>
    if d != '-' || second = some ']' || second = some '-' then itemOfAtom a
    else
      advance
      match ← next? with
      | none => unclosed opening
      | some c =>
        let b ← classAtom c
        let span := ⟨a.span.first, b.span.stop⟩
        let first ← boundary a
        let last ← boundary b
        if last.char < first.char then refuse .rangeReversed span
        return .range span first last

/-- The operation that a sign written twice stands for. -/
def operation? (c : Char) (second : Option Char) : Option SetOperation :=
  if second ≠ some c then none
  else if c = '&' then some .intersection
  else if c = '-' then some .difference
  else if c = '~' then some .symmetricDifference
  else none

/-! ### Classes -/

/-- Reads up to the end of brackets, which stand in outer ones; `fuel` bounds the steps. -/
def bracketFrom : Nat → OpenBracket → List OpenBracket → Reading Tree
  | 0, b, _ => unclosed b.opening
  | fuel + 1, b, outer => do
    skipBlanks
    let cursor ← get
    match cursor.rest with
    | [] => unclosed b.opening
    | '[' :: _ => do
      match ← named? with
      | some item => bracketFrom fuel (b.push item) outer
      | none => bracketFrom fuel (← openBracket) (b :: outer)
    | ']' :: _ => do
      bump
      let span ← spanFrom b.opening.first
      match outer with
      | [] => return .bracketed span b.negated b.content
      | o :: outer => bracketFrom fuel (o.push (.bracketed span b.negated b.content)) outer
    | c :: _ =>
      match operation? c cursor.second? with
      | some op => do
        bump
        bump
        bracketFrom fuel (b.join op (← place)) outer
      | none => do
        let item ← classItem b.opening c
        bracketFrom fuel (b.push item) outer

/-- Reads a class in brackets. -/
def bracketed : Reading Tree := do
  let b ← openBracket
  bracketFrom ((← get).rest.length + 1) b []

end GivenNames.Pattern.Reading
