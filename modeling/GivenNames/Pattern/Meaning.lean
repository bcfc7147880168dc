import GivenNames.Pattern.Expr
import GivenNames.Pattern.Tree
import GivenNames.Unicode.Property

/-!
What a pattern means.

Flags hold from where they are changed to the end of the group around. Letters without case stand
for all their cases. Without the characters beyond ASCII, classes are those of ASCII, and nothing
may stand for a part of a character: such patterns, and classes that would hold all the rest, are
refused.
-/

namespace GivenNames.Pattern

/-- The flags that bear on the meaning. -/
structure Flags where
  caseless : Bool := false
  lines : Bool := false
  dotAll : Bool := false
  unicode : Bool := true
  returns : Bool := false
  deriving DecidableEq, Repr

namespace Flags

/-- The flags after one is switched on or off. -/
def change (f : Flags) : Flag × Bool → Flags
  | (.caseless, on) => { f with caseless := on }
  | (.lines, on) => { f with lines := on }
  | (.dotAll, on) => { f with dotAll := on }
  | (.unicode, on) => { f with unicode := on }
  | (.returns, on) => { f with returns := on }
  | (.swapped, _) => f
  | (.spaced, _) => f

/-- The flags after several are switched on or off. -/
def changeAll (f : Flags) (changes : FlagChanges) : Flags :=
  changes.foldl change f

end Flags

/-! ### Sets of characters -/

/-- The cases of a character that a pattern without case stands for. -/
def variants (f : Flags) (c : Char) : List Char :=
  if f.unicode then (Unicode.caseVariants c.toNat).map Char.ofNat
  else [c, c.toLower, c.toUpper]

/-- The set with all cases of its members, where a pattern is without case. -/
def folded (f : Flags) (set : Char → Bool) : Char → Bool :=
  if f.caseless then fun c => (variants f c).any set else set

/-- Characters whose numbers lie in one of some ranges. -/
def inRanges (ranges : List (Nat × Nat)) (c : Char) : Bool :=
  Unicode.inRanges ranges c.toNat

/-- The characters of a class by its letter. -/
def ShortClass.holds (f : Flags) : ShortClass → Char → Bool
  | .digit => if f.unicode then fun c => Unicode.ofCategories [.nd] c.toNat else Char.isDigit
  | .space =>
    if f.unicode then Text.isBlank else inRanges [(9, 13), (0x20, 0x20)]
  | .word =>
    if f.unicode then fun c => Unicode.isWord c.toNat else fun c => c.isAlphanum || c == '_'

/-- The characters of a class by its name. -/
def NamedClass.holds : NamedClass → Char → Bool
  | .alnum => Char.isAlphanum
  | .alpha => Char.isAlpha
  | .ascii => inRanges [(0, 0x7F)]
  | .blank => inRanges [(9, 9), (0x20, 0x20)]
  | .cntrl => inRanges [(0, 0x1F), (0x7F, 0x7F)]
  | .digit => Char.isDigit
  | .graph => inRanges [(0x21, 0x7E)]
  | .lower => Char.isLower
  | .print => inRanges [(0x20, 0x7E)]
  | .punct => inRanges [(0x21, 0x2F), (0x3A, 0x40), (0x5B, 0x60), (0x7B, 0x7E)]
  | .space => inRanges [(9, 13), (0x20, 0x20)]
  | .upper => Char.isUpper
  | .word => fun c => c.isAlphanum || c == '_'
  | .xdigit => inRanges [(0x30, 0x39), (0x41, 0x46), (0x61, 0x66)]

/-- What is told of a name that stands for no property. -/
def causeOf : Unicode.PropertyFault → Cause
  | .noProperty => .propertyUnknown
  | .noValue => .propertyValueUnknown

/-- The characters of a property. -/
def PropertyName.set : PropertyName → Except Unicode.PropertyFault Unicode.CodePoints
  | .alone name => Unicode.propertyNamed name
  | .withValue name value => Unicode.propertyWithValue name value

/-- The set, or what it leaves. -/
def negateIf (negated : Bool) (set : Char → Bool) : Char → Bool :=
  if negated then fun c => !set c else set

/-- The set or what it leaves, which goes beyond ASCII. -/
def negation (f : Flags) (span : Span) (negated : Bool) (set : Char → Bool) :
    Except Fault (Char → Bool) :=
  if negated && !f.unicode then .error ⟨.notText, span, none⟩
  else .ok (negateIf negated set)

/-- The characters of a class by its letter, negated or not. -/
def shortSet (f : Flags) (span : Span) (c : ShortClass) (negated : Bool) :
    Except Fault (Char → Bool) :=
  negation f span negated (c.holds f)

/-- The characters of a property, negated or not. -/
def propertySet (f : Flags) (span : Span) (name : PropertyName) (negated : Bool) :
    Except Fault (Char → Bool) :=
  if !f.unicode then .error ⟨.notUnicode, span, none⟩
  else
    match name.set with
    | .error fault => .error ⟨causeOf fault, span, none⟩
    | .ok set => .ok (negateIf negated (folded f fun c => set c.toNat))

/-- Whether a character can be looked for: a byte beyond ASCII is no text. -/
def Literal.isText (f : Flags) (l : Literal) : Bool :=
  f.unicode || !l.isByte || l.char.toNat < 0x80

/-- A character as a member of a class. -/
def memberOf (f : Flags) (l : Literal) : Except Fault Char :=
  if !l.isText f then .error ⟨.notText, l.span, none⟩
  else if f.unicode || l.char.toNat < 0x80 then .ok l.char
  else .error ⟨.notUnicode, l.span, none⟩

/-- Two sets joined. -/
def SetOperation.join (op : SetOperation) (a b : Char → Bool) : Char → Bool :=
  match op with
  | .intersection => fun c => a c && b c
  | .difference => fun c => a c && !b c
  | .symmetricDifference => fun c => a c != b c

mutual

/-- The characters of an item of a class. -/
def ClassItem.set (f : Flags) : ClassItem → Except Fault (Char → Bool)
  | .literal l => do
    let char ← memberOf f l
    return fun c => c == char
  | .range _ first last => do
    let first ← memberOf f first
    let last ← memberOf f last
    return fun c => first ≤ c && c ≤ last
  | .named span c negated => negation f span negated (folded f c.holds)
  | .short span c negated => shortSet f span c negated
  | .property span name negated => propertySet f span name negated
  | .bracketed span negated set => do
    negation f span negated (folded f (← set.set f))
  | .union _ items => ClassItem.unionSet f items
  | .operation _ op left right => do
    let left ← left.set f
    let right ← right.set f
    return op.join (folded f left) (folded f right)

/-- The characters of several items of a class. -/
def ClassItem.unionSet (f : Flags) : List ClassItem → Except Fault (Char → Bool)
  | [] => return fun _ => false
  | item :: items => do
    let set ← item.set f
    let others ← ClassItem.unionSet f items
    return fun c => set c || others c

end

/-! ### Sizes -/

/-- About the bytes for the set of a class by its letter. -/
def ShortClass.cost (f : Flags) (negated : Bool) : ShortClass → Nat
  | .digit => if !f.unicode then 64 else if negated then 12824 else 5184
  | .space => if !f.unicode then 112 else if negated then 1924 else 680
  | .word => if !f.unicode then 96 else 49000

/-- About the bytes for the set of a property. -/
def propertyCost : Nat := 27000

/-- About the bytes for a set that leaves out a few characters. -/
def negatedCost : Nat := 1000

mutual

/-- About the bytes for an item of a class. -/
def ClassItem.cost (f : Flags) : ClassItem → Nat
  | .literal l => 40 * l.char.utf8Size
  | .range _ first last => 40 * (first.char.utf8Size + last.char.utf8Size)
  | .named _ _ negated => if negated then negatedCost else 64
  | .short _ c negated => c.cost f negated
  | .property _ _ _ => propertyCost
  | .bracketed _ negated set => if negated then negatedCost + set.cost f else set.cost f
  | .union _ items => ClassItem.unionCost f items
  | .operation _ _ left right => left.cost f + right.cost f

/-- About the bytes for several items of a class. -/
def ClassItem.unionCost (f : Flags) : List ClassItem → Nat
  | [] => 0
  | item :: items => item.cost f + ClassItem.unionCost f items

end

/-! ### Places -/

/-- Whether a character is part of a word. -/
def isWordChar (f : Flags) (c : Option Char) : Bool :=
  c.any (ShortClass.word.holds f)

/-- Whether a place is where a line begins, which is behind a line end. -/
def lineStarts (f : Flags) (before after : Option Char) : Bool :=
  before.isNone || before == some '\n' || (f.returns && before == some '\r' && after != some '\n')

/-- Whether a place is where a line ends, which is before its end. -/
def lineEnds (f : Flags) (before after : Option Char) : Bool :=
  after.isNone || (f.returns && after == some '\r')
    || (after == some '\n' && !(f.returns && before == some '\r'))

/-- What has to stand around a place. -/
def Anchor.holds (f : Flags) : Anchor → Surroundings
  | .textStart => fun before _ => before.isNone
  | .textEnd => fun _ after => after.isNone
  | .lineStart => fun before after => if f.lines then lineStarts f before after else before.isNone
  | .lineEnd => fun before after => if f.lines then lineEnds f before after else after.isNone
  | .wordEdge => fun before after => isWordChar f before != isWordChar f after
  | .noWordEdge => fun before after => isWordChar f before == isWordChar f after
  | .wordStart => fun before after => !isWordChar f before && isWordChar f after
  | .wordEnd => fun before after => isWordChar f before && !isWordChar f after
  | .noWordBefore => fun before _ => !isWordChar f before
  | .noWordAfter => fun _ after => !isWordChar f after

/-! ### Patterns -/

/-- The meaning of a pattern. -/
abbrev Meaning := Expr CharSet Surroundings

/-- The set of a character. -/
def Literal.charSet (f : Flags) (l : Literal) : CharSet :=
  let chars := if f.caseless then variants f l.char else [l.char]
  ⟨fun c => chars.contains c, Expr.stateCost * l.char.utf8Size⟩

/-- The set of a point: any character but those that end a line. -/
def dotSet (f : Flags) : CharSet :=
  ⟨fun c => f.dotAll || (c != '\n' && !(f.returns && c == '\r')), negatedCost⟩

def Atom.meaning (f : Flags) : Atom → Except Fault Meaning
  | .literal l =>
    if l.isText f then .ok (.one (l.charSet f)) else .error ⟨.notText, l.span, none⟩
  | .dot span => if f.unicode then .ok (.one (dotSet f)) else .error ⟨.notText, span, none⟩
  | .anchor _ a => .ok (.place (a.holds f))
  | .short span c negated =>
    (shortSet f span c negated).map fun set => .one ⟨set, c.cost f negated⟩
  | .property span name negated =>
    (propertySet f span name negated).map fun set => .one ⟨set, propertyCost⟩

mutual

/-- The meaning of a tree where flags are set, and the flags behind it. -/
def Tree.meaning (f : Flags) : Tree → Except Fault (Meaning × Flags)
  | .empty _ => return (.nothing, f)
  | .flags _ changes => return (.nothing, f.changeAll changes)
  | .atom a => return (← a.meaning f, f)
  | .bracketed span negated set => do
    let item := ClassItem.bracketed span negated set
    return (.one ⟨← item.set f, item.cost f⟩, f)
  | .repeated _ body least most => do
    let (e, f) ← body.meaning f
    return (.repeated e least most, f)
  | .group _ changes body => do
    let (e, _) ← body.meaning (f.changeAll changes)
    return (e, f)
  | .alternatives _ branches => do
    let (es, f) ← Tree.meanings f branches
    match es with
    | e :: es => return (.oneOf e es, f)
    | [] => return (.nothing, f)
  | .sequence _ items => do
    let (es, f) ← Tree.meanings f items
    return (.sequence es, f)

/-- The meanings of trees, each under the flags behind the one before. -/
def Tree.meanings (f : Flags) : List Tree → Except Fault (List Meaning × Flags)
  | [] => return ([], f)
  | t :: ts => do
    let (e, f) ← t.meaning f
    let (es, f) ← Tree.meanings f ts
    return (e :: es, f)

end

end GivenNames.Pattern
