/-!
Bytes and text. Files and streams are lists of bytes; a text is what they spell in UTF-8.

Main statement: what `encode` writes, `decode?` reads back (`decode?_encode`).
-/

namespace GivenNames.Text

/-- A run of bytes, as a file or a stream holds it. -/
abbrev Bytes := List UInt8

/-- The bytes of a text. -/
def encode (s : String) : Bytes :=
  s.toUTF8.data.toList

/-- The text that bytes spell, if they are valid. -/
def decode? (bytes : Bytes) : Option String :=
  String.fromUTF8? ⟨bytes.toArray⟩

/-- The number of bytes of the longest valid beginning that starts at `start`, counted from the
front; `fuel` bounds the characters looked at. -/
def validUpToFrom (bytes : ByteArray) : Nat → Nat → Nat
  | 0, start => start
  | fuel + 1, start =>
    match bytes.utf8DecodeChar? start with
    | some c => validUpToFrom bytes fuel (start + c.utf8Size)
    | none => start

/-- The number of bytes of the longest valid beginning. -/
def validUpTo (bytes : Bytes) : Nat :=
  validUpToFrom ⟨bytes.toArray⟩ bytes.length 0

/-- The number of bytes that characters take. -/
def byteLength (cs : List Char) : Nat :=
  cs.foldl (fun n c => n + c.utf8Size) 0

theorem decode?_encode (s : String) : decode? (encode s) = some s := by
  simp only [decode?, encode, Array.toArray_toList, String.toUTF8_eq_toByteArray]
  exact dif_pos s.isValidUTF8

end GivenNames.Text
