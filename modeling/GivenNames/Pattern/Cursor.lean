import GivenNames.Pattern.Tree
import GivenNames.Text.Blank

/-!
Reading a pattern character by character.

A cursor stands before what is left of a pattern and knows its place. Where blanks count for
nothing, they are passed over together with remarks, which begin with a number sign and end with
their line.
-/

namespace GivenNames.Pattern

/-- What is left of a pattern, where that begins, whether blanks count for nothing, and the names of
the groups so far. -/
structure Cursor where
  rest : List Char
  place : Place
  spaced : Bool
  names : List (List Char × Span)

/-- Reading from a cursor. -/
abbrev Reading := StateT Cursor (Except Fault)

namespace Cursor

/-- The cursor behind the next character. -/
def bump (c : Cursor) : Cursor :=
  match c.rest with
  | [] => c
  | x :: rest => { c with rest := rest, place := c.place.after x }

/-- The empty span before the next character. -/
def here (c : Cursor) : Span :=
  ⟨c.place, c.place⟩

/-- The span of the next character. -/
def charSpan (c : Cursor) : Span :=
  ⟨c.place, c.bump.place⟩

/-- What is left behind blanks and remarks, and its place. -/
def afterBlanks (inRemark : Bool) (place : Place) : List Char → List Char × Place
  | [] => ([], place)
  | x :: rest =>
    if inRemark then afterBlanks (x != '\n') (place.after x) rest
    else if Text.isBlank x then afterBlanks false (place.after x) rest
    else if x = '#' then afterBlanks true (place.after x) rest
    else (x :: rest, place)

/-- The cursor behind the blanks, where they count for nothing. -/
def skipBlanks (c : Cursor) : Cursor :=
  if c.spaced then
    let (rest, place) := afterBlanks false c.place c.rest
    { c with rest := rest, place := place }
  else c

/-- The cursor behind the next character and the blanks after it. -/
def advance (c : Cursor) : Cursor :=
  c.bump.skipBlanks

/-- The character behind the next one. -/
def second? (c : Cursor) : Option Char :=
  c.rest[1]?

/-- The character behind the next one, where blanks and a number sign among them count for nothing;
the blank itself where nothing else follows. -/
def secondSkipping? (c : Cursor) : Option Char :=
  if !c.spaced then c.second?
  else
    let behind := c.rest.drop 1
    let found := match behind.dropWhile Text.isBlank with
      | '#' :: more => more.dropWhile Text.isBlank
      | more => more
    match found with
    | x :: _ => some x
    | [] => behind.head?

/-- Passes the characters of a text if they come next. -/
def pass? (c : Cursor) : List Char → Option Cursor
  | [] => some c
  | x :: xs =>
    match c.rest with
    | y :: _ => if x = y then c.bump.pass? xs else none
    | [] => none

end Cursor

/-! ### Steps -/

namespace Reading

def here : Reading Span := return (← get).here

def charSpan : Reading Span := return (← get).charSpan

def place : Reading Place := return (← get).place

def next? : Reading (Option Char) := return (← get).rest.head?

def bump : Reading Unit := modify Cursor.bump

def advance : Reading Unit := modify Cursor.advance

def skipBlanks : Reading Unit := modify Cursor.skipBlanks

/-- The span from a place up to the cursor. -/
def spanFrom (first : Place) : Reading Span := return ⟨first, (← get).place⟩

/-- Refuses a pattern. -/
def refuse {α : Type} (cause : Cause) (span : Span) : Reading α :=
  throw ⟨cause, span, none⟩

/-- Passes the characters of a text if they come next, and tells whether they do. -/
def passes (text : String) : Reading Bool := do
  match (← get).pass? text.toList with
  | some c => set c; return true
  | none => return false

/-- The characters up to the first that does not hold, and the cursor there; `fuel` bounds their
number. -/
def takeFrom (holds : Char → Bool) (step : Cursor → Cursor) : Nat → Cursor → List Char × Cursor
  | 0, c => ([], c)
  | fuel + 1, c =>
    match c.rest with
    | x :: _ =>
      if holds x then
        let (xs, c) := takeFrom holds step fuel (step c)
        (x :: xs, c)
      else ([], c)
    | [] => ([], c)

/-- Passes the characters that hold, blanks between them left out where they count for nothing. -/
def takeAdvancing (holds : Char → Bool) : Reading (List Char) :=
  modifyGet fun c => takeFrom holds Cursor.advance c.rest.length c

/-- Passes the characters that hold. -/
def takeBumping (holds : Char → Bool) : Reading (List Char) :=
  modifyGet fun c => takeFrom holds Cursor.bump c.rest.length c

end Reading

end GivenNames.Pattern
