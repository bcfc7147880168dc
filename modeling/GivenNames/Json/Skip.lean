import GivenNames.Json.Reader

/-!
Passing over values whose content does not matter.

Members that a record does not name are passed over without being read: their nesting has no bound,
strings may hold lone surrogates, numerals may be of any size, and a few faults are told apart less
finely than where a value is read.
-/

namespace GivenNames.Json

/-- Passes over the rest of a string, after its opening quote. -/
def skipString : List Char → Except Failure (List Char)
  | [] => .error (failHere .endOfString [])
  | '"' :: rest => .ok rest
  | '\\' :: 'u' :: a :: b :: c :: d :: rest =>
    if (hexUnit? a b c d).isSome then skipString rest
    else .error (hexFailure (a :: b :: c :: d :: rest))
  | '\\' :: 'u' :: rest => .error (hexFailure rest)
  | ['\\'] => .error (failHere .endOfString [])
  | '\\' :: c :: rest =>
    if (shortEscape? c).isSome then skipString rest
    else .error (failNext .invalidEscape (c :: rest))
  | c :: rest =>
    if c.toNat < 0x20 then .error (failHere .controlCharacter (c :: rest)) else skipString rest

/-- Passes over an exponent, after its letter. -/
def skipExponent (rest : List Char) : Except Failure (List Char) :=
  let rest :=
    match rest with
    | '+' :: rest => rest
    | '-' :: rest => rest
    | rest => rest
  match rest with
  | [] => .error (failHere .invalidNumber [])
  | c :: rest =>
    if c.isDigit then .ok (rest.dropWhile Char.isDigit)
    else .error (failNext .invalidNumber (c :: rest))

/-- Passes over what follows the integer part of a numeral. -/
def skipAfterInteger (rest : List Char) : Except Failure (List Char) :=
  match rest with
  | '.' :: rest =>
    match rest with
    | [] => .error (failNext .invalidNumber [])
    | c :: _ =>
      if c.isDigit then
        match rest.dropWhile Char.isDigit with
        | 'e' :: rest => skipExponent rest
        | 'E' :: rest => skipExponent rest
        | rest => .ok rest
      else .error (failNext .invalidNumber rest)
  | 'e' :: rest => skipExponent rest
  | 'E' :: rest => skipExponent rest
  | rest => .ok rest

/-- Passes over a numeral after its sign. -/
def skipNumber : List Char → Except Failure (List Char)
  | [] => .error (failHere .invalidNumber [])
  | '0' :: c :: rest =>
    if c.isDigit then .error (failNext .invalidNumber (c :: rest)) else skipAfterInteger (c :: rest)
  | c :: rest =>
    if c.isDigit then skipAfterInteger (rest.dropWhile Char.isDigit)
    else .error (failNext .invalidNumber (c :: rest))

/-- An array or an object that has been opened. -/
inductive Frame where
  | array
  | object
  deriving DecidableEq, Repr

/-- Where the passing over stands: before a value, just inside a frame, or after a value. -/
inductive Standing where
  | before
  | inside
  | after
  deriving DecidableEq, Repr

/-- Passes over the key and the colon of a member, where the frame is an object. -/
def skipKey (frame : Frame) (rest : List Char) : Except Failure (List Char) :=
  match frame with
  | .array => .ok rest
  | .object =>
    match skipSpace rest with
    | '"' :: rest =>
      match skipString rest with
      | .error f => .error f
      | .ok rest => readColon rest
    | [] => .error (failNext .endOfObject [])
    | rest => .error (failNext .keyNotString rest)

/-- Why a frame may not go on like this. -/
def frameFailure (frame : Frame) (rest : List Char) : Failure :=
  match frame, rest with
  | .array, [] => failNext .endOfList []
  | .object, [] => failNext .endOfObject []
  | .array, rest => failNext .expectedListEnd rest
  | .object, rest => failNext .expectedObjectEnd rest

/-- Whether a character closes a frame. -/
def closes (frame : Frame) (c : Char) : Bool :=
  match frame with
  | .array => c == ']'
  | .object => c == '\x7d'

/-- Passes over values until the opened frames, innermost first, are closed. Each round takes a
character at least, or goes from one standing to the next. -/
def skipFrames : Nat → Standing → List Frame → List Char → Except Failure (List Char)
  | 0, _, _, rest => .error (failHere .endOfValue rest)
  | fuel + 1, .before, frames, rest =>
    let scalar := fun (step : Except Failure (List Char)) =>
      match step with
      | .error f => .error f
      | .ok rest => skipFrames fuel .after frames rest
    match skipSpace rest with
    | [] => .error (failNext .endOfValue [])
    | 'n' :: rest => scalar (readWord ['u', 'l', 'l'] rest)
    | 't' :: rest => scalar (readWord ['r', 'u', 'e'] rest)
    | 'f' :: rest => scalar (readWord ['a', 'l', 's', 'e'] rest)
    | '-' :: rest => scalar (skipNumber rest)
    | '"' :: rest => scalar (skipString rest)
    | '[' :: rest => skipFrames fuel .inside (.array :: frames) rest
    | '\x7b' :: rest => skipFrames fuel .inside (.object :: frames) rest
    | c :: rest =>
      if c.isDigit then scalar (skipNumber (c :: rest))
      else .error (failNext .expectedValue (c :: rest))
  | fuel + 1, .inside, frames, rest =>
    match frames with
    | [] => .ok rest
    | frame :: outer =>
      match skipSpace rest with
      | [] => .error (frameFailure frame [])
      | c :: rest =>
        if closes frame c then skipFrames fuel .after outer rest
        else
          match skipKey frame (c :: rest) with
          | .error f => .error f
          | .ok rest => skipFrames fuel .before frames rest
  | fuel + 1, .after, frames, rest =>
    match frames with
    | [] => .ok rest
    | frame :: outer =>
      match skipSpace rest with
      | [] => .error (frameFailure frame [])
      | c :: rest =>
        if closes frame c then skipFrames fuel .after outer rest
        else if c = ',' then
          match skipKey frame rest with
          | .error f => .error f
          | .ok rest => skipFrames fuel .before frames rest
        else .error (frameFailure frame (c :: rest))

/-- Passes over one value. -/
def skipValue (rest : List Char) : Except Failure (List Char) :=
  skipFrames (2 * rest.length + 2) .before [] rest

end GivenNames.Json
