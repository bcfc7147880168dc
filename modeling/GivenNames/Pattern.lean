import GivenNames.Pattern.Meaning
import GivenNames.Pattern.Reader

/-!
Patterns that are looked for in texts.

A pattern is written with the usual signs for classes, repetitions, groups and places. One that
makes no sense is refused, and so is one whose machine would be too large.
-/

namespace GivenNames

/-- A pattern that makes sense. -/
structure Pattern where
  meaning : Pattern.Meaning

namespace Pattern

/-- Why a text is no pattern. -/
inductive Refusal where
  | fault (f : Fault)
  | tooLarge
  deriving DecidableEq, Repr

/-- The bytes that the machine for a pattern may take. -/
def sizeLimit : Nat := 10485760

/-- What is told of a text that is no pattern. -/
def Refusal.message (pattern : String) : Refusal → String
  | .fault f => f.text pattern
  | .tooLarge => "Compiled regex exceeds size limit of " ++ Integer.natText sizeLimit ++ " bytes."

/-- Reads a pattern. -/
def read (text : String) : Except Refusal Pattern :=
  match Tree.read text with
  | .error fault => .error (.fault fault)
  | .ok tree =>
    match tree.meaning {} with
    | .error fault => .error (.fault fault)
    | .ok (meaning, _) => if sizeLimit < meaning.cost then .error .tooLarge else .ok ⟨meaning⟩

/-- Whether a pattern fits some part of a text. -/
def occursIn (p : Pattern) (text : String) : Bool :=
  p.meaning.occursIn text.toList

end Pattern

end GivenNames
