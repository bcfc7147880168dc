import GivenNames.Unicode.CaseTable
import GivenNames.Unicode.Category

/-!
Lower case of a whole text.

Every capital letter becomes its small letter; the dotted capital I becomes an i and a combining
dot. The capital sigma is the one letter that looks at its neighbours: at the end of a word it takes
the final form. A word ends there when, leaving characters without case aside, a cased letter stands
before the sigma and none after it.
-/

namespace GivenNames.Text

/-- The small form of a character, whatever its neighbours. -/
def lowerChar (c : Char) : List Char :=
  if c.toNat < 128 then [c.toLower]
  else if c.toNat == 0x130 then ['i', '\u0307']
  else
    match Unicode.capitalRun? c.toNat with
    | some r => [Char.ofNat (r.image c.toNat)]
    | none => [c]

/-- Whether a cased letter comes next, characters without case aside. -/
def casedComesNext (cs : List Char) : Bool :=
  match cs.dropWhile fun c => Unicode.isCaseIgnorable c.toNat with
  | c :: _ => Unicode.isCased c.toNat
  | [] => false

/-- Lower case of the characters that follow `before`, which is held back to front. -/
def lowerAfter (before : List Char) : List Char → List Char
  | [] => []
  | c :: rest =>
    (if c = 'Σ' then [if casedComesNext before && !casedComesNext rest then 'ς' else 'σ']
      else lowerChar c) ++ lowerAfter (c :: before) rest

/-- The text in lower case. -/
def lower (s : String) : String :=
  String.ofList (lowerAfter [] s.toList)

/-- Two spellings of one name: equal in lower case. -/
def sameIgnoringCase (a b : String) : Bool :=
  lower a == lower b

/-- Equality up to the case of the ASCII letters alone. -/
def eqIgnoringAsciiCase (a b : String) : Bool :=
  a.toList.map Char.toLower == b.toList.map Char.toLower

end GivenNames.Text
