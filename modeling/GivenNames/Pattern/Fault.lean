import GivenNames.Integer
import GivenNames.Text.Pieces

/-!
Why a pattern is refused, and how that is told.

A fault is a cause and the span of characters that it lies in, and sometimes an earlier span that
it clashes with. It is told with the pattern itself, the spans being marked below their lines; a
pattern of more than one line is told with line numbers.
-/

namespace GivenNames.Pattern

/-! ### Places -/

/-- A place before a character: its line and its column, both counted from 1. -/
structure Place where
  line : Nat
  column : Nat
  deriving DecidableEq, Repr

namespace Place

/-- The place that a pattern begins at. -/
def start : Place :=
  ⟨1, 1⟩

/-- The place behind a character. -/
def after (p : Place) (c : Char) : Place :=
  if c = '\n' then ⟨p.line + 1, 1⟩ else ⟨p.line, p.column + 1⟩

/-- Whether a place comes before another. -/
def isBefore (p q : Place) : Bool :=
  p.line < q.line || (p.line == q.line && p.column < q.column)

end Place

/-- The characters from a place up to another. -/
structure Span where
  first : Place
  stop : Place
  deriving DecidableEq, Repr

/-! ### Causes -/

/-- Why a pattern is refused. -/
inductive Cause where
  | backreference
  | lookaround
  | groupUnclosed
  | groupUnopened
  | groupNameDuplicate
  | groupNameEmpty
  | groupNameInvalid
  | groupNameUnclosed
  | flagDangling
  | flagDuplicate
  | flagNegatedTwice
  | flagAtEnd
  | flagUnknown
  | repetitionMissing
  | repetitionUnclosed
  | repetitionNoDecimal
  | repetitionReversed
  | decimalTooLarge
  | escapeAtEnd
  | escapeUnknown
  | hexEmpty
  | hexNoScalar
  | hexInvalidDigit
  | edgeAtEnd
  | edgeUnclosed
  | edgeUnknown
  | classUnclosed
  | classEscape
  | rangeReversed
  | rangeBoundary
  | propertyEscape
  | nestedTooDeeply
  | notUnicode
  | notText
  | propertyUnknown
  | propertyValueUnknown
  deriving DecidableEq, Repr

/-- The depth to which groups, repetitions and classes may be nested. -/
def nestLimit : Nat := 250

def Cause.message : Cause → String
  | .backreference => "backreferences are not supported"
  | .lookaround => "look-around, including look-ahead and look-behind, is not supported"
  | .groupUnclosed => "unclosed group"
  | .groupUnopened => "unopened group"
  | .groupNameDuplicate => "duplicate capture group name"
  | .groupNameEmpty => "empty capture group name"
  | .groupNameInvalid => "invalid capture group character"
  | .groupNameUnclosed => "unclosed capture group name"
  | .flagDangling => "dangling flag negation operator"
  | .flagDuplicate => "duplicate flag"
  | .flagNegatedTwice => "flag negation operator repeated"
  | .flagAtEnd => "expected flag but got end of regex"
  | .flagUnknown => "unrecognized flag"
  | .repetitionMissing => "repetition operator missing expression"
  | .repetitionUnclosed => "unclosed counted repetition"
  | .repetitionNoDecimal => "repetition quantifier expects a valid decimal"
  | .repetitionReversed => "invalid repetition count range, the start must be <= the end"
  | .decimalTooLarge => "decimal literal invalid"
  | .escapeAtEnd => "incomplete escape sequence, reached end of pattern prematurely"
  | .escapeUnknown => "unrecognized escape sequence"
  | .hexEmpty => "hexadecimal literal empty"
  | .hexNoScalar => "hexadecimal literal is not a Unicode scalar value"
  | .hexInvalidDigit => "invalid hexadecimal digit"
  | .edgeAtEnd =>
    "found either the beginning of a special word boundary or a bounded repetition on a \\b with "
      ++ "an opening brace, but no closing brace"
  | .edgeUnclosed =>
    "special word boundary assertion is either unclosed or contains an invalid character"
  | .edgeUnknown =>
    "unrecognized special word boundary assertion, valid choices are: start, end, start-half or "
      ++ "end-half"
  | .classUnclosed => "unclosed character class"
  | .classEscape => "invalid escape sequence found in character class"
  | .rangeReversed => "invalid character class range, the start must be <= the end"
  | .rangeBoundary => "invalid range boundary, must be a literal"
  | .propertyEscape => "invalid Unicode character class"
  | .nestedTooDeeply =>
    "exceed the maximum number of nested parentheses/brackets (" ++ Integer.natText nestLimit ++ ")"
  | .notUnicode => "Unicode not allowed here"
  | .notText => "pattern can match invalid UTF-8"
  | .propertyUnknown => "Unicode property not found"
  | .propertyValueUnknown => "Unicode property value not found"

/-- A cause, the span that it lies in, and the span that it clashes with, if any. -/
structure Fault where
  cause : Cause
  span : Span
  earlier : Option Span := none
  deriving DecidableEq, Repr

/-! ### Wording -/

/-- The lines of a pattern, without their ends. -/
def linesOf (pattern : List Char) : List (List Char) :=
  let pieces := Text.pieces '\n' pattern
  let ended := pieces.dropLast.map fun line =>
    if line.getLast? = some '\r' then line.dropLast else line
  match pieces.getLast? with
  | some (c :: cs) => ended ++ [c :: cs]
  | _ => ended

/-- The number of lines that a place in a pattern may lie on. -/
def lineCount (pattern : List Char) : Nat :=
  (linesOf pattern).length + if pattern.getLast? = some '\n' then 1 else 0

/-- The marks below a line, behind a number of columns that are filled already. -/
def marksFrom (filled : Nat) : List Span → List Char
  | [] => []
  | s :: spans =>
    let blanks := s.first.column - 1 - filled
    let width := max 1 (s.stop.column - s.first.column)
    List.replicate blanks ' ' ++ List.replicate width '^'
      ++ marksFrom (filled + blanks + width) spans

namespace Fault

/-- The spans of a fault in the order in which they stand. -/
def spans (f : Fault) : List Span :=
  match f.earlier with
  | none => [f.span]
  | some s => if s.first.isBefore f.span.first then [s, f.span] else [f.span, s]

/-- The spans of a fault that lie on one line. -/
def lineSpans (f : Fault) (line : Nat) : List Span :=
  f.spans.filter fun s => s.first.line == line && s.stop.line == line

/-- What stands in front of a line: its number if it has one, else blanks. -/
def margin (width line : Nat) : List Char :=
  if width = 0 then List.replicate 4 ' '
  else
    let digits := Integer.natChars line
    List.replicate (width - digits.length) ' ' ++ digits ++ [':', ' ']

/-- A line of the pattern, and the marks below it. -/
def noted (f : Fault) (width line : Nat) (text : List Char) : List Char :=
  let here := f.lineSpans line
  margin width line ++ text ++ ['\n']
    ++ if here.isEmpty then []
      else List.replicate (if width = 0 then 4 else width + 2) ' ' ++ marksFrom 0 here ++ ['\n']

/-- The pattern with the spans of a fault marked. -/
def marked (f : Fault) (pattern : List Char) : List Char :=
  let count := lineCount pattern
  let width := if count ≤ 1 then 0 else (Integer.natChars count).length
  (linesOf pattern).zipIdx.flatMap fun (text, i) => f.noted width (i + 1) text

/-- Where a span is that goes over more than one line. -/
def extent (s : Span) : String :=
  "on line " ++ Integer.natText s.first.line ++ " (column " ++ Integer.natText s.first.column
    ++ ") through line " ++ Integer.natText s.stop.line ++ " (column "
    ++ Integer.natText (s.stop.column - 1) ++ ")"

/-- The line that sets off a pattern of more than one line. -/
def divider : String :=
  String.ofList (List.replicate 79 '~') ++ "\n"

/-- What is told of a fault in a pattern. -/
def text (f : Fault) (pattern : String) : String :=
  let lines := String.ofList (f.marked pattern.toList)
  let long := f.spans.filter fun s => s.first.line != s.stop.line
  let body :=
    if pattern.toList.contains '\n' then
      divider ++ lines ++ divider
        ++ if long.isEmpty then "" else "\n".intercalate (long.map extent) ++ "\n"
    else lines
  "regex parse error:\n" ++ body ++ "error: " ++ f.cause.message

end Fault

end GivenNames.Pattern
