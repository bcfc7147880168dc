import GivenNames.Pattern.Fault

/-!
Patterns as they are written.

A tree keeps what its meaning does not need but its faults do: the spans of its parts, whether a
character is written as a byte, and the changes of flags where they stand. Trees may not be nested
deeper than a limit; a part that goes too deep is found by its span.
-/

namespace GivenNames.Pattern

/-- What can be switched on and off in a pattern: letters without case, anchors at lines, a point
that takes line feeds, repetitions that swap their taste, characters beyond ASCII, line ends of two
characters, and blanks that count for nothing. -/
inductive Flag where
  | caseless
  | lines
  | dotAll
  | swapped
  | unicode
  | returns
  | spaced
  deriving DecidableEq, Repr

/-- Flags that are switched on or off. -/
abbrev FlagChanges := List (Flag × Bool)

/-- A character, and whether it is written by the number of a byte. -/
structure Literal where
  span : Span
  char : Char
  isByte : Bool
  deriving DecidableEq, Repr

/-- Classes with a letter of their own. -/
inductive ShortClass where
  | digit
  | space
  | word
  deriving DecidableEq, Repr

/-- Classes with a name between colons. -/
inductive NamedClass where
  | alnum
  | alpha
  | ascii
  | blank
  | cntrl
  | digit
  | graph
  | lower
  | print
  | punct
  | space
  | upper
  | word
  | xdigit
  deriving DecidableEq, Repr

/-- A property by its name alone, or with a value. -/
inductive PropertyName where
  | alone (name : String)
  | withValue (name value : String)
  deriving DecidableEq, Repr

/-- Places that can be asked for. Ends of words are taken whole, or by what stands on one side. -/
inductive Anchor where
  | lineStart
  | lineEnd
  | textStart
  | textEnd
  | wordEdge
  | noWordEdge
  | wordStart
  | wordEnd
  | noWordBefore
  | noWordAfter
  deriving DecidableEq, Repr

/-- What stands for one character or for a place. -/
inductive Atom where
  | literal (l : Literal)
  | dot (span : Span)
  | anchor (span : Span) (a : Anchor)
  | short (span : Span) (c : ShortClass) (negated : Bool)
  | property (span : Span) (name : PropertyName) (negated : Bool)
  deriving DecidableEq, Repr

def Atom.span : Atom → Span
  | .literal l => l.span
  | .dot span => span
  | .anchor span _ => span
  | .short span _ _ => span
  | .property span _ _ => span

/-- How two sets are joined within a class. -/
inductive SetOperation where
  | intersection
  | difference
  | symmetricDifference
  deriving DecidableEq, Repr

/-- What stands in a class. -/
inductive ClassItem where
  | literal (l : Literal)
  | range (span : Span) (first last : Literal)
  | named (span : Span) (c : NamedClass) (negated : Bool)
  | short (span : Span) (c : ShortClass) (negated : Bool)
  | property (span : Span) (name : PropertyName) (negated : Bool)
  | bracketed (span : Span) (negated : Bool) (set : ClassItem)
  | union (span : Span) (items : List ClassItem)
  | operation (span : Span) (op : SetOperation) (left right : ClassItem)

def ClassItem.span : ClassItem → Span
  | .literal l => l.span
  | .range span _ _ => span
  | .named span _ _ => span
  | .short span _ _ => span
  | .property span _ _ => span
  | .bracketed span _ _ => span
  | .union span _ => span
  | .operation span _ _ _ => span

/-- A pattern, or a part of one. -/
inductive Tree where
  | empty (span : Span)
  | flags (span : Span) (changes : FlagChanges)
  | atom (a : Atom)
  | bracketed (span : Span) (negated : Bool) (set : ClassItem)
  | repeated (span : Span) (body : Tree) (least : Nat) (most : Option Nat)
  | group (span : Span) (changes : FlagChanges) (body : Tree)
  | alternatives (span : Span) (branches : List Tree)
  | sequence (span : Span) (items : List Tree)

def Tree.span : Tree → Span
  | .empty span => span
  | .flags span _ => span
  | .atom a => a.span
  | .bracketed span _ _ => span
  | .repeated span _ _ _ => span
  | .group span _ _ => span
  | .alternatives span _ => span
  | .sequence span _ => span

/-- Whether something can be repeated. -/
def Tree.isRepeatable : Tree → Bool
  | .empty _ => false
  | .flags _ _ => false
  | _ => true

/-! ### Depth -/

mutual

/-- The first part of a class that goes deeper than a number of levels. -/
def ClassItem.tooDeep? (levels : Nat) : ClassItem → Option Span
  | .bracketed span _ set => if levels = 0 then some span else set.tooDeep? (levels - 1)
  | .union _ [] => none
  | .union span (item :: items) =>
    if levels = 0 then some span
    else (item.tooDeep? (levels - 1)).or (ClassItem.anyTooDeep? (levels - 1) items)
  | .operation span _ left right =>
    if levels = 0 then some span
    else (left.tooDeep? (levels - 1)).or (right.tooDeep? (levels - 1))
  | _ => none

/-- The first part of several items that goes deeper than a number of levels. -/
def ClassItem.anyTooDeep? (levels : Nat) : List ClassItem → Option Span
  | [] => none
  | item :: items => (item.tooDeep? levels).or (ClassItem.anyTooDeep? levels items)

end

mutual

/-- The first part of a pattern that goes deeper than a number of levels. -/
def Tree.tooDeep? (levels : Nat) : Tree → Option Span
  | .bracketed span _ set => if levels = 0 then some span else set.tooDeep? (levels - 1)
  | .repeated span body _ _ => if levels = 0 then some span else body.tooDeep? (levels - 1)
  | .group span _ body => if levels = 0 then some span else body.tooDeep? (levels - 1)
  | .alternatives span branches =>
    if levels = 0 then some span else Tree.anyTooDeep? (levels - 1) branches
  | .sequence span items => if levels = 0 then some span else Tree.anyTooDeep? (levels - 1) items
  | _ => none

/-- The first part of several trees that goes deeper than a number of levels. -/
def Tree.anyTooDeep? (levels : Nat) : List Tree → Option Span
  | [] => none
  | tree :: trees => (tree.tooDeep? levels).or (Tree.anyTooDeep? levels trees)

end

/-- A tree that keeps the limit of depth. -/
def Tree.checked (t : Tree) : Except Fault Tree :=
  match t.tooDeep? nestLimit with
  | none => .ok t
  | some span => .error ⟨.nestedTooDeeply, span, none⟩

end GivenNames.Pattern
