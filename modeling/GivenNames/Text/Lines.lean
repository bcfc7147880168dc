import GivenNames.Text.Utf8

/-!
Lines of a stream of bytes.

A line ends with a line feed, which is dropped with one carriage return before it. What follows the
last line feed is a line too unless it is empty, and keeps its carriage return.
-/

namespace GivenNames.Text

/-- The byte that ends a line. -/
def lineFeed : UInt8 := 10

/-- The byte that may stand before the end of a line. -/
def carriageReturn : UInt8 := 13

/-- The bytes of a line without the one carriage return at its end. -/
def dropReturn (line : Bytes) : Bytes :=
  if line.getLast? == some carriageReturn then line.dropLast else line

/-- The lines of a stream whose unfinished line so far is `begun`, held back to front. -/
def linesAfter (begun : Bytes) : Bytes → List Bytes
  | [] => if begun.isEmpty then [] else [begun.reverse]
  | b :: rest =>
    if b == lineFeed then dropReturn begun.reverse :: linesAfter [] rest
    else linesAfter (b :: begun) rest

/-- The lines of a stream. -/
def lines (bytes : Bytes) : List Bytes :=
  linesAfter [] bytes

/-- The bytes of a stream up to its first line feed, that byte included. -/
def firstLine : Bytes → Bytes
  | [] => []
  | b :: rest => if b == lineFeed then [b] else b :: firstLine rest

/-- What comes before the first line feed is one line, and the lines after it are those of the
rest. -/
theorem linesAfter_append (begun line rest : Bytes) (plain : lineFeed ∉ line) :
    linesAfter begun (line ++ lineFeed :: rest)
      = dropReturn (begun.reverse ++ line) :: linesAfter [] rest := by
  induction line generalizing begun with
  | nil => simp [linesAfter]
  | cons b line ih =>
    have other : (b == lineFeed) = false := by
      simp only [beq_eq_false_iff_ne]
      exact fun h => plain (by simp [h])
    have later : lineFeed ∉ line := fun h => plain (by simp [h])
    simp [linesAfter, other, ih (b :: begun) later]

end GivenNames.Text
