import GivenNames.Pattern.Group

/-!
Reading a whole pattern.

A pattern is read from front to back, with the groups that are open on a stack. What is repeated is
the last item before the sign; changes of flags and the front of a branch cannot be repeated.
-/

namespace GivenNames.Pattern

namespace Reading

/-- A group that is open: its parenthesis, its changes of flags, and whether blanks counted for
nothing around it. -/
structure OpenGroup where
  parenthesis : Span
  changes : FlagChanges
  spaced : Bool

/-- What is read of a group or, without one, of the whole pattern: where it begins, the branches
that are done, and where the branch at hand begins and its items; both lists back to front. -/
structure Level where
  group : Option OpenGroup
  start : Place
  branches : List Tree
  first : Place
  items : List Tree

namespace Level

/-- A level of which nothing is read. -/
def opened (group : Option OpenGroup) (p : Place) : Level :=
  ⟨group, p, [], p, []⟩

def push (l : Level) (t : Tree) : Level :=
  { l with items := t :: l.items }

/-- The branch at hand, up to a place. -/
def branch (l : Level) (stop : Place) : Tree :=
  match l.items with
  | [] => .empty ⟨l.first, stop⟩
  | [t] => t
  | items => .sequence ⟨l.first, stop⟩ items.reverse

/-- Ends the branch at hand; the next one begins behind a bar. -/
def endBranch (l : Level) (bar next : Place) : Level :=
  { l with branches := l.branch bar :: l.branches, first := next, items := [] }

/-- All that is read, up to a place. -/
def tree (l : Level) (stop : Place) : Tree :=
  match l.branches with
  | [] => l.branch stop
  | branches => .alternatives ⟨l.start, stop⟩ (l.branch stop :: branches).reverse

end Level

/-! ### Repetitions -/

/-- The last item and those before it, if it can be repeated. -/
def repeatable (l : Level) : Reading (Tree × Level) := do
  match l.items with
  | t :: items =>
    if t.isRepeatable then return (t, { l with items := items })
    else refuse .repetitionMissing (← here)
  | [] => refuse .repetitionMissing (← here)

/-- Passes the sign that makes a repetition take as little as it can. -/
def passTaste : Reading Unit := do
  if (← next?) = some '?' then bump

/-- Repeats the last item, by a sign. -/
def repeatBySign (l : Level) (least : Nat) (most : Option Nat) : Reading Level := do
  let (t, l) ← repeatable l
  bump
  passTaste
  return l.push (.repeated (← spanFrom t.span.first) t least most)

/-- The numbers that counts of repetitions stay below. -/
def countBound : Nat := 0x100000000

/-- Reads a decimal number, or why there is none; that may come to nothing. -/
def decimal : Reading (Except Fault Nat) := do
  let _ ← takeBumping Text.isBlank
  let first ← place
  let digits ← takeAdvancing Char.isDigit
  let span ← spanFrom first
  let _ ← takeAdvancing Text.isBlank
  let n := digits.foldl (fun n c => 10 * n + (c.toNat - '0'.toNat)) 0
  if digits.isEmpty then return .error ⟨.repetitionNoDecimal, span, none⟩
  else if countBound ≤ n then return .error ⟨.decimalTooLarge, span, none⟩
  else return .ok n

/-- Passes the next character of a count; something has to follow it. -/
def advanceCount (start : Place) : Reading Unit := do
  advance
  if (← next?).isNone then refuse .repetitionUnclosed (← spanFrom start)

/-- Reads the bounds of a count, from the brace on. -/
def countBounds (start : Place) : Reading (Nat × Option Nat) := do
  advanceCount start
  let least ← decimal
  match ← next? with
  | none => refuse .repetitionUnclosed (← spanFrom start)
  | some ',' =>
    advanceCount start
    let least ← liftExcept least
    if (← next?) = some '\x7d' then return (least, none)
    else return (least, some (← liftExcept (← decimal)))
  | some _ =>
    let count ← liftExcept least
    return (count, some count)
where
  liftExcept (n : Except Fault Nat) : Reading Nat :=
    match n with
    | .ok n => return n
    | .error fault => throw fault

/-- Repeats the last item, by a count. -/
def repeatByCount (l : Level) : Reading Level := do
  let (t, l) ← repeatable l
  let start ← place
  let (least, most) ← countBounds start
  if (← next?) != some '\x7d' then refuse .repetitionUnclosed (← spanFrom start)
  advance
  passTaste
  if most.any (· < least) then refuse .repetitionReversed (← spanFrom start)
  return l.push (.repeated (← spanFrom t.span.first) t least most)

/-! ### Groups -/

/-- Reads a parenthesis that opens: a further level, or changes of flags in the level at hand. -/
def openGroup (l : Level) (outer : List Level) : Reading (Level × List Level) := do
  match ← opening with
  | .flags span changes =>
    modify fun c => { c with spaced := (changes.lookup .spaced).getD c.spaced }
    return (l.push (.flags span changes), outer)
  | .group parenthesis changes =>
    let spaced := (← get).spaced
    modify fun c => { c with spaced := (changes.lookup .spaced).getD spaced }
    return (.opened (some ⟨parenthesis, changes, spaced⟩) (← place), l :: outer)

/-- Reads a parenthesis that closes. -/
def closeGroup (l : Level) (outer : List Level) : Reading (Level × List Level) := do
  match l.group, outer with
  | some g, o :: outer =>
    let body := l.tree (← place)
    bump
    modify fun c => { c with spaced := g.spaced }
    return (o.push (.group (← spanFrom g.parenthesis.first) g.changes body), outer)
  | _, _ => refuse .groupUnopened (← charSpan)

/-! ### Patterns -/

/-- What a sign or a character stands for. -/
def atom (c : Char) : Reading Tree := do
  let span ← charSpan
  match c with
  | '\\' => return .atom (← escape)
  | '.' => bump; return .atom (.dot span)
  | '^' => bump; return .atom (.anchor span .lineStart)
  | '$' => bump; return .atom (.anchor span .lineEnd)
  | c => bump; return .atom (.literal ⟨span, c, false⟩)

/-- Reads what a sign or a character begins. -/
def step (c : Char) (l : Level) (outer : List Level) : Reading (Level × List Level) := do
  match c with
  | '(' => openGroup l outer
  | ')' => closeGroup l outer
  | '|' =>
    let bar ← place
    bump
    return (l.endBranch bar (← place), outer)
  | '[' => return (l.push (← bracketed), outer)
  | '?' => return (← repeatBySign l 0 (some 1), outer)
  | '*' => return (← repeatBySign l 0 none, outer)
  | '+' => return (← repeatBySign l 1 none, outer)
  | '\x7b' => return (← repeatByCount l, outer)
  | c => return (l.push (← atom c), outer)

/-- Reads up to the end of a pattern; `fuel` bounds the number of steps. -/
def treeFrom : Nat → Level → List Level → Reading Tree
  | 0, l, _ => return l.tree (← place)
  | fuel + 1, l, outer => do
    skipBlanks
    match ← next? with
    | some c =>
      let (l, outer) ← step c l outer
      treeFrom fuel l outer
    | none =>
      match l.group with
      | some g => refuse .groupUnclosed g.parenthesis
      | none => return l.tree (← place)

end Reading

/-- Reads a pattern. -/
def Tree.read (pattern : String) : Except Fault Tree := do
  let cursor : Cursor := ⟨pattern.toList, .start, false, []⟩
  let (t, _) ← (Reading.treeFrom (cursor.rest.length + 1) (.opened none .start) []).run cursor
  t.checked

end GivenNames.Pattern
