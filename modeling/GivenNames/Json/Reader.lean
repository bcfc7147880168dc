import GivenNames.Json.Fault

/-!
Reading JSON values from text.

Every reader takes the characters that are left and gives back what it read with the characters
after it. A failure is placed by the number of bytes left behind the point it reports, so readers
carry no position. Nesting is bounded: a reader is given the number of arrays and objects that may
still be opened.

An array and an object are read by loops that know nothing of what their items and members are
(`readItems`, `readMembers`), so that values and typed records share them.
-/

namespace GivenNames.Json

/-- A failure of a reader. A placed one reports a point with so many bytes left behind it. A loose
one is about a whole value: it has no point of its own yet, and is placed when the enclosing array
or object is closed. -/
inductive Failure where
  | placed (cause : Cause) (left : Nat)
  | loose (cause : Cause) (rest : List Char)
  deriving DecidableEq, Repr

/-- What a reader gives: a result and the characters after it. -/
abbrev Step (α : Type) := Except Failure (α × List Char)

/-- A failure at the point reached. -/
def failHere (cause : Cause) (rest : List Char) : Failure :=
  .placed cause (Text.byteLength rest)

/-- A failure at the next byte, or at the end of the text. -/
def failNext (cause : Cause) (rest : List Char) : Failure :=
  .placed cause (Text.byteLength rest - 1)

/-- The fault that a failure amounts to in a whole text. -/
def Failure.fault (text : String) : Failure → Fault
  | .placed cause left =>
    let bytes := Text.encode text
    ⟨cause, some (Place.ofOffset bytes (bytes.length - left))⟩
  | .loose cause _ => ⟨cause, none⟩

/-- The greatest number of arrays and objects that may stand around a value, itself included. -/
def maxNesting : Nat := 127

/-! ### Blanks, words and punctuation -/

/-- The four characters that may stand between tokens. -/
def isSpace (c : Char) : Bool :=
  c == ' ' || c == '\n' || c == '\t' || c == '\r'

/-- The characters after any blanks. -/
def skipSpace (rest : List Char) : List Char :=
  rest.dropWhile isSpace

/-- Reads the remaining letters of a word. -/
def readWord : List Char → List Char → Except Failure (List Char)
  | [], rest => .ok rest
  | _ :: _, [] => .error (failHere .endOfValue [])
  | w :: word, c :: rest =>
    if c = w then readWord word rest else .error (failNext .expectedIdent (c :: rest))

/-- Reads the colon after a key. -/
def readColon (rest : List Char) : Except Failure (List Char) :=
  match skipSpace rest with
  | ':' :: rest => .ok rest
  | [] => .error (failNext .endOfObject [])
  | rest => .error (failNext .expectedColon rest)

/-- Reads the end of an array whose items have been taken. -/
def closeArray (rest : List Char) : Except Failure (List Char) :=
  match skipSpace rest with
  | ']' :: rest => .ok rest
  | ',' :: rest =>
    match skipSpace rest with
    | ']' :: rest => .error (failNext .trailingComma (']' :: rest))
    | rest => .error (failNext .trailingCharacters rest)
  | [] => .error (failNext .endOfList [])
  | rest => .error (failNext .trailingCharacters rest)

/-- Reads the end of an object whose members have been taken. -/
def closeObject (rest : List Char) : Except Failure (List Char) :=
  match skipSpace rest with
  | '\x7d' :: rest => .ok rest
  | ',' :: rest => .error (failNext .trailingComma (',' :: rest))
  | [] => .error (failNext .endOfObject [])
  | rest => .error (failNext .trailingCharacters rest)

/-- Places a loose failure behind the end of its array, as far as that is there. -/
def Failure.closedByArray : Failure → Failure
  | .loose cause rest =>
    match skipSpace rest with
    | ']' :: rest => failHere cause rest
    | ',' :: rest => failHere cause (skipSpace rest)
    | rest => failHere cause rest
  | f => f

/-- Places a loose failure behind the end of its object, as far as that is there. -/
def Failure.closedByObject : Failure → Failure
  | .loose cause rest =>
    match skipSpace rest with
    | '\x7d' :: rest => failHere cause rest
    | rest => failHere cause rest
  | f => f

/-! ### Strings -/

/-- The value of a hexadecimal digit. -/
def hexDigit? (c : Char) : Option Nat :=
  if '0' ≤ c && c ≤ '9' then some (c.toNat - 48)
  else if 'a' ≤ c && c ≤ 'f' then some (c.toNat - 87)
  else if 'A' ≤ c && c ≤ 'F' then some (c.toNat - 55)
  else none

/-- The code unit of four hexadecimal digits. -/
def hexUnit? (a b c d : Char) : Option Nat :=
  match hexDigit? a, hexDigit? b, hexDigit? c, hexDigit? d with
  | some a, some b, some c, some d => some (a * 4096 + b * 256 + c * 16 + d)
  | _, _, _, _ => none

/-- Why the characters where four hexadecimal digits should stand are none. -/
def hexFailure (rest : List Char) : Failure :=
  if Text.byteLength rest < 4 then .placed .endOfString 0
  else .placed .invalidEscape (Text.byteLength rest - 4)

def isLeadingSurrogate (n : Nat) : Bool :=
  0xD800 ≤ n && n ≤ 0xDBFF

def isTrailingSurrogate (n : Nat) : Bool :=
  0xDC00 ≤ n && n ≤ 0xDFFF

/-- The character of a pair of surrogates. -/
def surrogatePair (leading trailing : Nat) : Char :=
  Char.ofNat ((leading - 0xD800) * 1024 + (trailing - 0xDC00) + 0x10000)

/-- Why no escaped trailing surrogate follows a leading one. -/
def pairFailure : List Char → Failure
  | [] => failHere .endOfString []
  | ['\\'] => failHere .endOfString []
  | '\\' :: 'u' :: rest => hexFailure rest
  | '\\' :: rest => failNext .unpairedEscape rest
  | rest => failNext .unpairedEscape rest

/-- The character that a backslash and one letter stand for. -/
def shortEscape? : Char → Option Char
  | '"' => some '"'
  | '\\' => some '\\'
  | '/' => some '/'
  | 'b' => some '\x08'
  | 'f' => some '\x0c'
  | 'n' => some '\n'
  | 'r' => some '\r'
  | 't' => some '\t'
  | _ => none

/-- Puts a character before what was read after it. -/
def before (c : Char) : Step (List Char) → Step (List Char) :=
  Except.map fun (cs, rest) => (c :: cs, rest)

/-- Reads the characters of a string up to its closing quote, after the opening one. -/
def readString : List Char → Step (List Char)
  | [] => .error (failHere .endOfString [])
  | '"' :: rest => .ok ([], rest)
  | '\\' :: 'u' :: a :: b :: c :: d :: rest =>
    match hexUnit? a b c d with
    | none => .error (hexFailure (a :: b :: c :: d :: rest))
    | some unit =>
      if isTrailingSurrogate unit then .error (failHere .loneSurrogate rest)
      else if isLeadingSurrogate unit then
        match rest with
        | '\\' :: 'u' :: e :: f :: g :: h :: rest =>
          match hexUnit? e f g h with
          | none => .error (hexFailure (e :: f :: g :: h :: rest))
          | some second =>
            if isTrailingSurrogate second then before (surrogatePair unit second) (readString rest)
            else .error (failHere .loneSurrogate rest)
        | rest => .error (pairFailure rest)
      else before (Char.ofNat unit) (readString rest)
  | '\\' :: 'u' :: rest => .error (hexFailure rest)
  | ['\\'] => .error (failHere .endOfString [])
  | '\\' :: c :: rest =>
    match shortEscape? c with
    | some e => before e (readString rest)
    | none => .error (failNext .invalidEscape (c :: rest))
  | c :: rest =>
    if c.toNat < 0x20 then .error (failNext .controlCharacter (c :: rest))
    else before c (readString rest)

/-! ### Numbers -/

/-- The greatest significand that is kept exactly. -/
def maxSignificand : Nat := 0xffffffffffffffff

/-- The greatest exponent that is kept; a greater one is as good as infinite. -/
def maxExponent : Nat := 0x7fffffff

/-- The significand of a numeral's integer part that begins with digits worth `sum`, the number of
further digits once it is full, and the characters after them. -/
def integerPart (sum : Nat) : List Char → Nat × Nat × List Char
  | [] => (sum, 0, [])
  | c :: rest =>
    match Integer.digit? c with
    | none => (sum, 0, c :: rest)
    | some d =>
      if sum * 10 + d ≤ maxSignificand then integerPart (sum * 10 + d) rest
      else
        let more := (c :: rest).takeWhile Char.isDigit
        (sum, more.length, (c :: rest).dropWhile Char.isDigit)

/-- The significand after the digits of a fraction, the number of those taken into it, and the
characters after them. Digits that do not fit are passed over. -/
def fractionPart (sum places : Nat) : List Char → Nat × Nat × List Char
  | [] => (sum, places, [])
  | c :: rest =>
    match Integer.digit? c with
    | none => (sum, places, c :: rest)
    | some d =>
      if sum * 10 + d ≤ maxSignificand then fractionPart (sum * 10 + d) (places + 1) rest
      else (sum, places, (c :: rest).dropWhile Char.isDigit)

/-- The digits of an exponent, or none as soon as it is too great, and the characters after the
digits taken. -/
def exponentPart (sum : Nat) : List Char → Option Nat × List Char
  | [] => (some sum, [])
  | c :: rest =>
    match Integer.digit? c with
    | none => (some sum, c :: rest)
    | some d =>
      if sum * 10 + d ≤ maxExponent then exponentPart (sum * 10 + d) rest
      else (none, rest)

/-- The floating-point number of a significand and a power of ten. -/
def finishFloat (negative : Bool) (significand : Nat) (exponent : Int) (rest : List Char) :
    Step Json :=
  match Binary64.ofDecimal negative significand exponent with
  | some x => .ok (.float x, rest)
  | none => .error (failHere .numberOutOfRange rest)

/-- Reads the exponent of a numeral, after its letter. -/
def readExponent (negative : Bool) (significand : Nat) (exponent : Int) (rest : List Char) :
    Step Json :=
  let (down, rest) :=
    match rest with
    | '+' :: rest => (false, rest)
    | '-' :: rest => (true, rest)
    | rest => (false, rest)
  match rest with
  | [] => .error (failHere .endOfValue [])
  | c :: rest =>
    match Integer.digit? c with
    | none => .error (failNext .invalidNumber (c :: rest))
    | some d =>
      match exponentPart d rest with
      | (some n, rest) =>
        finishFloat negative significand (if down then exponent - n else exponent + n) rest
      | (none, rest) =>
        if significand ≠ 0 && !down then .error (failHere .numberOutOfRange rest)
        else .ok (.float (.zero negative), rest.dropWhile Char.isDigit)

/-- Reads the fraction of a numeral, after its point. -/
def readFraction (negative : Bool) (significand : Nat) (exponent : Int) (rest : List Char) :
    Step Json :=
  match rest with
  | [] => .error (failNext .endOfValue [])
  | c :: _ =>
    if c.isDigit then
      let (significand, places, rest) := fractionPart significand 0 rest
      let exponent := exponent - places
      match rest with
      | 'e' :: rest => readExponent negative significand exponent rest
      | 'E' :: rest => readExponent negative significand exponent rest
      | rest => finishFloat negative significand exponent rest
    else .error (failNext .invalidNumber rest)

/-- The number that an integer part alone stands for: an integer if it fits, else a floating-point
number, as is a zero with a minus sign. -/
def finishInteger (negative : Bool) (significand : Nat) (rest : List Char) : Step Json :=
  if !negative then .ok (.int significand, rest)
  else if significand = 0 || 0x8000000000000000 < significand then
    finishFloat true significand 0 rest
  else .ok (.int (-significand), rest)

/-- Reads what follows the integer part of a numeral. -/
def readAfterInteger (negative : Bool) (significand more : Nat) (rest : List Char) : Step Json :=
  match rest with
  | '.' :: rest => readFraction negative significand more rest
  | 'e' :: rest => readExponent negative significand more rest
  | 'E' :: rest => readExponent negative significand more rest
  | rest =>
    if more = 0 then finishInteger negative significand rest
    else finishFloat negative significand more rest

/-- Reads a numeral after its sign. A zero stands alone in an integer part. -/
def readNumber (negative : Bool) : List Char → Step Json
  | [] => .error (failHere .endOfValue [])
  | '0' :: c :: rest =>
    if c.isDigit then .error (failNext .invalidNumber (c :: rest))
    else readAfterInteger negative 0 0 (c :: rest)
  | c :: rest =>
    match Integer.digit? c with
    | none => .error (failNext .invalidNumber (c :: rest))
    | some d =>
      let (significand, more, rest) := integerPart d rest
      readAfterInteger negative significand more rest

/-! ### Arrays and objects -/

/-- The characters of the next item of an array, or none at its end. -/
def nextItem (first : Bool) (rest : List Char) : Except Failure (Option (List Char)) :=
  match skipSpace rest with
  | [] => .error (failNext .endOfList [])
  | ']' :: _ => .ok none
  | c :: rest =>
    if first then .ok (some (c :: rest))
    else if c = ',' then
      match skipSpace rest with
      | ']' :: rest => .error (failNext .trailingComma (']' :: rest))
      | [] => .error (failNext .endOfValue [])
      | rest => .ok (some rest)
    else .error (failNext .expectedListEnd (c :: rest))

/-- Reads items up to the end of their array, which stays. The fuel bounds the number of items. -/
def readItems {α : Type} (item : List Char → Step α) : Nat → Bool → List Char → Step (List α)
  | 0, _, rest => .error (failHere .endOfList rest)
  | fuel + 1, first, rest =>
    match nextItem first rest with
    | .error f => .error f
    | .ok none => .ok ([], rest)
    | .ok (some rest) =>
      match item rest with
      | .error f => .error f
      | .ok (x, rest) => (readItems item fuel false rest).map fun (xs, rest) => (x :: xs, rest)

/-- Reads the next key of an object, or gives none at its end. -/
def nextKey (first : Bool) (rest : List Char) : Except Failure (Option (String × List Char)) :=
  let key := fun rest => (readString rest).map fun (cs, rest) => some (String.ofList cs, rest)
  match skipSpace rest with
  | [] => .error (failNext .endOfObject [])
  | '\x7d' :: _ => .ok none
  | c :: rest =>
    if first then
      if c = '"' then key rest else .error (failNext .keyNotString (c :: rest))
    else if c = ',' then
      match skipSpace rest with
      | '"' :: rest => key rest
      | '\x7d' :: rest => .error (failNext .trailingComma ('\x7d' :: rest))
      | [] => .error (failNext .endOfValue [])
      | rest => .error (failNext .keyNotString rest)
    else .error (failNext .expectedObjectEnd (c :: rest))

/-- Reads members up to the end of their object, which stays. A member is given what was gathered
before it and its key. The fuel bounds the number of members. -/
def readMembers {σ : Type} (member : σ → String → List Char → Step σ) :
    Nat → Bool → σ → List Char → Step σ
  | 0, _, _, rest => .error (failHere .endOfObject rest)
  | fuel + 1, first, gathered, rest =>
    match nextKey first rest with
    | .error f => .error f
    | .ok none => .ok (gathered, rest)
    | .ok (some (key, rest)) =>
      match member gathered key rest with
      | .error f => .error f
      | .ok (gathered, rest) => readMembers member fuel false gathered rest

/-- Fuel for the items or members in a text. -/
def itemFuel (rest : List Char) : Nat :=
  rest.length + 1

/-! ### Values -/

/-- Reads any value, in which at most `nesting` arrays and objects are opened. -/
def readValue (nesting : Nat) (rest : List Char) : Step Json :=
  match skipSpace rest with
  | [] => .error (failNext .endOfValue [])
  | 'n' :: rest => (readWord ['u', 'l', 'l'] rest).map fun rest => (.null, rest)
  | 't' :: rest => (readWord ['r', 'u', 'e'] rest).map fun rest => (.bool true, rest)
  | 'f' :: rest => (readWord ['a', 'l', 's', 'e'] rest).map fun rest => (.bool false, rest)
  | '-' :: rest => readNumber true rest
  | '"' :: rest => (readString rest).map fun (cs, rest) => (.string (String.ofList cs), rest)
  | '[' :: rest =>
    match nesting with
    | 0 => .error (failNext .nestedTooDeeply ('[' :: rest))
    | nesting + 1 =>
      match readItems (readValue nesting) (itemFuel rest) true rest with
      | .error f => .error f
      | .ok (items, rest) => (closeArray rest).map fun rest => (.array items, rest)
  | '\x7b' :: rest =>
    match nesting with
    | 0 => .error (failNext .nestedTooDeeply ('\x7b' :: rest))
    | nesting + 1 =>
      let member := fun gathered key rest =>
        match readColon rest with
        | .error f => .error f
        | .ok rest =>
          (readValue nesting rest).map fun (value, rest) => (setMember key value gathered, rest)
      match readMembers member (itemFuel rest) true [] rest with
      | .error f => .error f
      | .ok (members, rest) => (closeObject rest).map fun rest => (.object members, rest)
  | c :: rest =>
    if c.isDigit then readNumber false (c :: rest) else .error (failNext .expectedValue (c :: rest))

/-- Nothing but blanks may follow the value of a whole text. -/
def finish {α : Type} (step : Step α) : Except Failure α :=
  match step with
  | .error f => .error f
  | .ok (x, rest) =>
    match skipSpace rest with
    | [] => .ok x
    | rest => .error (failNext .trailingCharacters rest)

/-- The value that a whole text stands for. -/
def parse (text : String) : Except Fault Json :=
  (finish (readValue maxNesting text.toList)).mapError (Failure.fault text)

end GivenNames.Json
