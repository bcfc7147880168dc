/-!
Patterns by their meaning, and whether one occurs in a text.

A pattern leads from places in a text to places: from each place that a set holds, to all that a
part of the text which fits it may end at. Sets of places are numbers, the bit of a place being set
where the place belongs to the set; so the characters of a set are one number too, and passing one
of them is a shift. A pattern occurs in a text if some place is led to from any place.
-/

namespace GivenNames.Pattern

/-- What a pattern fits: nothing, one character of a set, a place with something around it, two
parts one behind the other, one of two, or a part again and again. -/
inductive Expr (κ ι : Type) where
  | nothing
  | one (k : κ)
  | place (i : ι)
  | both (a b : Expr κ ι)
  | either (a b : Expr κ ι)
  | repeated (e : Expr κ ι) (least : Nat) (most : Option Nat)

namespace Expr

variable {κ ι κ' ι' : Type}

/-- The same pattern over other leaves. -/
def map (f : κ → κ') (g : ι → ι') : Expr κ ι → Expr κ' ι'
  | .nothing => .nothing
  | .one k => .one (f k)
  | .place i => .place (g i)
  | .both a b => .both (a.map f g) (b.map f g)
  | .either a b => .either (a.map f g) (b.map f g)
  | .repeated e least most => .repeated (e.map f g) least most

/-- Parts one behind the other. -/
def sequence : List (Expr κ ι) → Expr κ ι
  | [] => .nothing
  | [e] => e
  | e :: es => .both e (sequence es)

/-- One of several, of which there is one. -/
def oneOf (e : Expr κ ι) : List (Expr κ ι) → Expr κ ι
  | [] => e
  | e' :: es => .either e (oneOf e' es)

end Expr

/-! ### Sets of places -/

/-- A set of places: its bits. -/
abbrev Places := Nat

namespace Places

/-- The places of a list whose members hold. -/
def ofList {α : Type} (holds : α → Bool) : List α → Places
  | [] => 0
  | a :: as => (holds a).toNat + 2 * ofList holds as

/-- A number of places, from the first on. -/
def first (count : Nat) : Places :=
  Nat.pow 2 count - 1

/-- A step taken a number of times; when it changes nothing any more, the rest of them change
nothing either. -/
def times (step : Places → Places) : Nat → Places → Places
  | 0, s => s
  | n + 1, s =>
    let next := step s
    if next = s then s else times step n next

/-- The places that are reached by a step taken at most a number of times. -/
def upTo (step : Places → Places) : Nat → Places → Places
  | 0, s => s
  | n + 1, s =>
    let next := s ||| step s
    if next = s then s else upTo step n next

end Places

namespace Expr

/-- Where a pattern leads from a set of places, its leaves being the places of characters and the
places themselves; of `size` places in a text, a repetition reaches all in that many steps. -/
def ends (size : Nat) : Expr Places Places → Places → Places
  | .nothing, s => s
  | .one k, s => (s &&& k) <<< 1
  | .place i, s => s &&& i
  | .both a b, s => b.ends size (a.ends size s)
  | .either a b, s => a.ends size s ||| b.ends size s
  | .repeated e least most, s =>
    Places.upTo (e.ends size) (most.elim size (· - least)) (Places.times (e.ends size) least s)

end Expr

/-! ### Texts -/

/-- A set of characters, with about the number of bytes that a machine which reads them one by one
takes for it. -/
structure CharSet where
  holds : Char → Bool
  cost : Nat

/-- What has to stand around a place: behind a character or at the front, before one or at the
end. -/
abbrev Surroundings := Option Char → Option Char → Bool

/-- What stands on both sides of every place in a text, behind a character or in front. -/
def neighboursFrom (before : Option Char) : List Char → List (Option Char × Option Char)
  | [] => [(before, none)]
  | c :: cs => (before, some c) :: neighboursFrom (some c) cs

/-- The places of a text by what stands around them. -/
def neighbours (text : List Char) : List (Option Char × Option Char) :=
  neighboursFrom none text

namespace Expr

/-- A pattern over a text: the sets of characters and of surroundings become sets of places. -/
def inText (e : Expr CharSet Surroundings) (text : List Char) : Expr Places Places :=
  let sides := neighbours text
  e.map (fun set => Places.ofList set.holds text) fun holds =>
    Places.ofList (fun (before, after) => holds before after) sides

/-- Whether a pattern fits some part of a text. -/
def occursIn (e : Expr CharSet Surroundings) (text : List Char) : Bool :=
  let size := text.length + 1
  (e.inText text).ends size (Places.first size) != 0

/-! ### Size -/

/-- Whether a pattern fits nothing longer than nothing. -/
def isNarrow {κ ι : Type} : Expr κ ι → Bool
  | .nothing => true
  | .one _ => false
  | .place _ => true
  | .both a b => a.isNarrow && b.isNarrow
  | .either a b => a.isNarrow && b.isNarrow
  | .repeated e _ most => e.isNarrow || most == some 0

/-- The bytes for one state of a machine. -/
def stateCost : Nat := 32

/-- The bytes for a state that leads on to two others. -/
def forkCost : Nat := 40

/-- About the number of bytes that a machine for a pattern takes, which has every repetition written
out. -/
def cost : Expr CharSet Surroundings → Nat
  | .nothing => stateCost
  | .one set => set.cost
  | .place _ => stateCost
  | .both a b => a.cost + b.cost
  | .either a b => a.cost + b.cost + forkCost
  | .repeated e least most =>
    if e.isNarrow then e.cost + forkCost
    else
      match most with
      | none => max least 1 * e.cost + forkCost
      | some most => least * e.cost + (most - least) * (e.cost + forkCost) + stateCost

end Expr

end GivenNames.Pattern
