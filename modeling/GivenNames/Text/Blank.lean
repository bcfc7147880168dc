/-!
Blank characters and trimming.

A character is blank when it has the Unicode property White_Space, which takes in the no-break
spaces and the line separators and leaves out the zero-width ones. Trimming removes blanks at both
ends and nowhere else.
-/

namespace GivenNames.Text

/-- Blank characters: those with the property White_Space. -/
def isBlank (c : Char) : Bool :=
  let n := c.toNat
  (9 ≤ n && n ≤ 13) || n == 0x20 || n == 0x85 || n == 0xA0 || n == 0x1680
    || (0x2000 ≤ n && n ≤ 0x200A) || n == 0x2028 || n == 0x2029 || n == 0x202F || n == 0x205F
    || n == 0x3000

/-- Drops the blanks at both ends. -/
def trimChars (cs : List Char) : List Char :=
  ((cs.dropWhile isBlank).reverse.dropWhile isBlank).reverse

/-- Drops the blanks at both ends of a text. -/
def trim (s : String) : String :=
  String.ofList (trimChars s.toList)

/-- A text is blank when it holds nothing but blanks; the empty text is. -/
def isBlankText (s : String) : Bool :=
  s.toList.all isBlank

end GivenNames.Text
