import GivenNames.Text.Utf8

/-!
The bytes of a text, character by character.

A character below 128 is one byte, its code point; the bytes of every other character are 128 or
more. Main statements: the bytes of a text are those of its characters (`encode_eq_flatMap`), a
byte below 128 stands for one character only (`mem_encodeChars_ascii`), and bytes that begin like
the byte order mark begin with it (`utf8EncodeChar_append_inj`).
-/

namespace GivenNames.Text

open String (utf8EncodeChar)

/-! ### Characters -/

theorem utf8EncodeChar_ascii {c : Char} (low : c.toNat < 128) :
    utf8EncodeChar c = [UInt8.ofNat c.toNat] := by
  have small : c.toNat ≤ 127 := Nat.le_of_lt_succ low
  simp [utf8EncodeChar, small]

theorem high_of_mem_utf8EncodeChar {c : Char} (high : 128 ≤ c.toNat) {b : UInt8}
    (member : b ∈ utf8EncodeChar c) : 128 ≤ b.toNat := by
  have large : ¬c.val.toNat ≤ 127 := Nat.not_le_of_lt high
  simp only [utf8EncodeChar, if_neg large] at member
  split at member
  · simp only [List.mem_cons, List.not_mem_nil, or_false] at member
    rcases member with rfl | rfl <;> simp only [UInt8.toNat_ofNat'] <;> omega
  · split at member <;>
      simp only [List.mem_cons, List.not_mem_nil, or_false] at member
    · rcases member with rfl | rfl | rfl <;> simp only [UInt8.toNat_ofNat'] <;> omega
    · rcases member with rfl | rfl | rfl | rfl <;> simp only [UInt8.toNat_ofNat'] <;> omega

/-! ### Texts -/

/-- The bytes of characters. -/
def encodeChars (cs : List Char) : Bytes :=
  cs.flatMap utf8EncodeChar

theorem encode_ofList (cs : List Char) : encode (String.ofList cs) = encodeChars cs := by
  simp [encode, encodeChars, List.utf8Encode]

theorem encode_eq_flatMap (s : String) : encode s = encodeChars s.toList := by
  rw [← encode_ofList, String.ofList_toList]

@[simp] theorem encodeChars_nil : encodeChars [] = [] := rfl

@[simp] theorem encodeChars_cons (c : Char) (cs : List Char) :
    encodeChars (c :: cs) = utf8EncodeChar c ++ encodeChars cs := rfl

@[simp] theorem encodeChars_append (cs ds : List Char) :
    encodeChars (cs ++ ds) = encodeChars cs ++ encodeChars ds := by
  simp [encodeChars]

/-- A byte below 128 comes from the one character that has it as its code point. -/
theorem mem_encodeChars_ascii {cs : List Char} {b : UInt8} (low : b.toNat < 128)
    (member : b ∈ encodeChars cs) : ∃ c ∈ cs, c.toNat = b.toNat := by
  obtain ⟨c, here, inside⟩ := List.mem_flatMap.mp member
  refine ⟨c, here, ?_⟩
  by_cases ascii : c.toNat < 128
  · rw [utf8EncodeChar_ascii ascii, List.mem_singleton] at inside
    rw [inside, UInt8.toNat_ofNat']
    omega
  · have high := high_of_mem_utf8EncodeChar (Nat.le_of_not_lt ascii) inside
    omega

/-! ### The byte order mark -/

/-- No character's bytes are the beginning of another's. -/
theorem utf8EncodeChar_append_inj {c d : Char} {bytes rest : Bytes}
    (same : utf8EncodeChar c ++ bytes = utf8EncodeChar d ++ rest) : c = d ∧ bytes = rest := by
  have decoded (e : Char) (more : Bytes) :
      (utf8EncodeChar e ++ more).toByteArray.utf8DecodeChar? 0 = some e := by
    rw [List.toByteArray_append]
    exact ByteArray.utf8DecodeChar?_utf8EncodeChar_append
  have char : c = d := by
    have first := decoded c bytes
    rw [same, decoded d rest] at first
    exact (Option.some.inj first).symm
  subst char
  exact ⟨rfl, List.append_cancel_left same⟩

theorem utf8EncodeChar_mark : utf8EncodeChar '\ufeff' = [0xEF, 0xBB, 0xBF] := rfl

end GivenNames.Text
