import GivenNames.Pattern.Bracket
import GivenNames.Unicode.Property

/-!
Reading what a group begins with.

A group takes a number, a name, or changes of flags. Changes alone in parentheses hold for the rest
of the group around them.
-/

namespace GivenNames.Pattern.Reading

/-! ### Flags -/

/-- The flag of a letter. -/
def flag? : Char → Option Flag
  | 'i' => some .caseless
  | 'm' => some .lines
  | 's' => some .dotAll
  | 'U' => some .swapped
  | 'u' => some .unicode
  | 'R' => some .returns
  | 'x' => some .spaced
  | _ => none

/-- A sign in a list of flags, `none` being the dash, and its span. -/
abbrev FlagSign := Option Flag × Span

/-- Reads a sign in a list of flags behind others, the last one first. -/
def flagSign (before : List FlagSign) (c : Char) : Reading FlagSign := do
  let span ← charSpan
  let sign := flag? c
  if c != '-' && sign.isNone then refuse .flagUnknown span
  match before.find? fun s => s.1 == sign with
  | some (_, earlier) =>
    throw ⟨if sign.isNone then .flagNegatedTwice else .flagDuplicate, span, some earlier⟩
  | none => return (sign, span)

/-- Reads a list of flags up to a colon or a closing parenthesis, behind others, the last one first;
`fuel` bounds their number. -/
def flagSigns : Nat → List FlagSign → Reading (List FlagSign)
  | 0, before => return before
  | fuel + 1, before => do
    match ← next? with
    | none => refuse .flagAtEnd (← here)
    | some c =>
      if c = ':' || c = ')' then
        match before with
        | (none, span) :: _ => refuse .flagDangling span
        | _ => return before
      else
        let sign ← flagSign before c
        bump
        flagSigns fuel (sign :: before)

/-- The changes that a list of flags stands for; those behind a dash are switched off. -/
def changesOf (signs : List FlagSign) : FlagChanges :=
  let (on, off) := (signs.map Prod.fst).span (·.isSome)
  on.filterMap (·.map fun f => (f, true)) ++ off.filterMap (·.map fun f => (f, false))

/-! ### Names -/

/-- Whether a character may stand in the name of a group. -/
def isNameChar (isFirst : Bool) (c : Char) : Bool :=
  let n := c.toNat
  c = '_' || Unicode.isAlphabetic n
    || (!isFirst && (c = '.' || c = '[' || c = ']' || Unicode.ofCategories [.nd, .nl, .no] n))

/-- Reads the characters of a group's name up to its end; `fuel` bounds their number. -/
def nameChars : Nat → Bool → Reading (List Char)
  | 0, _ => return []
  | fuel + 1, isFirst => do
    match ← next? with
    | none => refuse .groupNameUnclosed (← here)
    | some c =>
      if c = '>' then return []
      if !isNameChar isFirst c then refuse .groupNameInvalid (← charSpan)
      bump
      return c :: (← nameChars fuel false)

/-- Reads the name of a group, which no group before it has. -/
def groupName : Reading Unit := do
  let start ← place
  let name ← nameChars ((← get).rest.length + 1) true
  let span ← spanFrom start
  bump
  if name.isEmpty then refuse .groupNameEmpty ⟨start, start⟩
  match (← get).names.lookup name with
  | some earlier => throw ⟨.groupNameDuplicate, span, some earlier⟩
  | none => modify fun c => { c with names := c.names ++ [(name, span)] }

/-! ### Openings -/

/-- What parentheses begin with: changes of flags alone, or a group with changes of its own. -/
inductive Opening where
  | flags (span : Span) (changes : FlagChanges)
  | group (span : Span) (changes : FlagChanges)

/-- Reads the flags behind a question mark. -/
def flagOpening (parenthesis question : Span) : Reading Opening := do
  if (← next?).isNone then refuse .groupUnclosed parenthesis
  let signs ← flagSigns ((← get).rest.length + 1) []
  let alone := (← next?) = some ')'
  bump
  if alone then
    if signs.isEmpty then refuse .repetitionMissing question
    return .flags (← spanFrom parenthesis.first) (changesOf signs.reverse)
  return .group parenthesis (changesOf signs.reverse)

/-- Passes the first of some texts that comes next, and tells whether one does. -/
def passesOneOf : List String → Reading Bool
  | [] => return false
  | text :: texts => do
    if ← passes text then return true
    passesOneOf texts

/-- Reads what parentheses begin with. -/
def opening : Reading Opening := do
  let parenthesis ← charSpan
  advance
  let question ← here
  if ← passesOneOf ["?=", "?!", "?<=", "?<!"] then
    refuse .lookaround (← spanFrom parenthesis.first)
  if ← passesOneOf ["?P<", "?<"] then
    groupName
    return .group parenthesis []
  if ← passes "?" then flagOpening parenthesis question
  else return .group parenthesis []

end GivenNames.Pattern.Reading
