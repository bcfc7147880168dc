/-!
Tables over all code points, as runs.

A table says where each run of code points begins and what value its members have; a run ends where
the next one begins. Tables are written as texts of words such as `Lu26`: what the value is, and the
number of code points in the run. A set is a table of truth values, written `-65 +26`.
-/

namespace GivenNames.Unicode

/-- Where runs of code points begin and what value they have, in rising order. -/
abbrev Runs (α : Type) := Array (Nat × α)

namespace Runs

variable {α : Type}

/-! ### Looking up -/

/-- Whether the run at an index begins at or before a code point. -/
def beginsBy (runs : Runs α) (n index : Nat) : Bool :=
  match runs[index]? with
  | some (first, _) => first ≤ n
  | none => false

/-- The last index between two whose run begins at or before a code point; the first one's does. -/
def search (runs : Runs α) (n lo hi : Nat) : Nat :=
  if hi ≤ lo + 1 then lo
  else if runs.beginsBy n ((lo + hi) / 2) then search runs n ((lo + hi) / 2) hi
  else search runs n lo ((lo + hi) / 2)
termination_by hi - lo

/-- The value of a code point. -/
def find? (runs : Runs α) (n : Nat) : Option α :=
  if runs.beginsBy n 0 then (runs[runs.search n 0 runs.size]?).map Prod.snd else none

/-! ### Reading -/

/-- A table of which a part is read: the word at hand, back to front, the number after it, and where
the run that it stands for begins. -/
structure Reading (α : Type) where
  word : List Char
  length : Nat
  first : Nat
  runs : Runs α

namespace Reading

/-- A table of which nothing is read yet. -/
def start : Reading α :=
  ⟨[], 0, 0, #[]⟩

/-- Ends the word at hand; what stands for no value is left to the run before. -/
def endWord (value : String → Option α) (r : Reading α) : Reading α :=
  ⟨[], 0, r.first + r.length,
    match value (String.ofList r.word.reverse) with
    | some v => r.runs.push (r.first, v)
    | none => r.runs⟩

/-- Reads one more character. -/
def next (value : String → Option α) (r : Reading α) (c : Char) : Reading α :=
  if c = ' ' || c = '\n' then r.endWord value
  else if c.isDigit then { r with length := r.length * 10 + (c.toNat - '0'.toNat) }
  else { r with word := c :: r.word }

end Reading

/-- The table that a text stands for, by the value of each word. -/
def ofText (value : String → Option α) (text : String) : Runs α :=
  ((text.toList.foldl (Reading.next value) Reading.start).endWord value).runs

end Runs

/-! ### Sets -/

/-- The truth value that a sign stands for. -/
def membershipOf? : String → Option Bool
  | "+" => some true
  | "-" => some false
  | _ => none

/-- The set that a text stands for. -/
def setOfText (text : String) : Runs Bool :=
  Runs.ofText membershipOf? text

/-- Whether a code point belongs to a set. -/
def Runs.holds (set : Runs Bool) (n : Nat) : Bool :=
  (set.find? n).getD false

/-- Whether a code point lies in one of the closed ranges. -/
def inRanges (ranges : List (Nat × Nat)) (n : Nat) : Bool :=
  ranges.any fun (lo, hi) => lo ≤ n && n ≤ hi

end GivenNames.Unicode
