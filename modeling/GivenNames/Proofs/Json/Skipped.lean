import GivenNames.Json.Skip
import GivenNames.Proofs.Json.Written

/-!
Written values passed over.

Values that do not matter are passed over by a loop with a stack of the arrays and objects that are
open. A written scalar takes one round of it. Every other stretch of text takes a number of rounds
that depends on this text only and leaves the loop after a value, with the frames around it open
(`Written.skips`). Main statement: a written value is passed over to its end (`skipValue_written`).
-/

namespace GivenNames.Json

variable {rest : List Char}

/-! ### Scalars -/

theorem skipString_escapeChar (c : Char) (rest : List Char) :
    skipString (escapeChar c ++ rest) = skipString rest := by
  unfold escapeChar
  split
  · simp [skipString, shortEscape?]
  split
  · simp [skipString, shortEscape?]
  split
  · simp [skipString, shortEscape?]
  split
  · simp [skipString, shortEscape?]
  split
  · simp [skipString, shortEscape?]
  split
  · simp [skipString, shortEscape?]
  split
  · simp [skipString, shortEscape?]
  split
  · rename_i low
    have zero : hexDigit? '0' = some 0 := rfl
    have high := hexDigit?_hexChar (n := c.toNat / 16) (by omega)
    have last := hexDigit?_hexChar (n := c.toNat % 16) (by omega)
    simp [skipString, hexUnit?, zero, high, last]
  · rename_i quote backslash _ _ _ _ _ high
    rw [List.singleton_append, skipString.eq_def]
    have printable : ¬c.toNat < 0x20 := high
    split <;> grind

/-- The escaped characters of a string are passed over up to its closing quote. -/
theorem skipString_escaped (cs rest : List Char) :
    skipString (cs.flatMap escapeChar ++ '"' :: rest) = .ok rest := by
  induction cs with
  | nil => simp [skipString]
  | cons c cs ih => rw [List.flatMap_cons, List.append_assoc, skipString_escapeChar, ih]

theorem skipAfterInteger_detached (apart : Detached rest) : skipAfterInteger rest = .ok rest := by
  unfold skipAfterInteger
  split
  · exact absurd rfl (apart _ rfl).2.1
  · exact absurd rfl (apart _ rfl).2.2.1
  · exact absurd rfl (apart _ rfl).2.2.2
  · rfl

theorem dropWhile_digits {ds : List Char} (digits : ∀ d ∈ ds, d.isDigit = true)
    (apart : Detached rest) : (ds ++ rest).dropWhile Char.isDigit = rest := by
  rw [List.dropWhile_append_of_pos digits]
  cases rest with
  | nil => rfl
  | cons c rest => rw [List.dropWhile_cons_of_neg]; simpa using (apart c rfl).1

/-- The digits of a natural number are passed over. -/
theorem skipNumber_natChars (n : Nat) (apart : Detached rest) :
    skipNumber (Integer.natChars n ++ rest) = .ok rest := by
  have digits := Integer.natChars_digits n
  obtain ⟨d, ds, written, digit⟩ := Integer.natChars_head n
  have later : ∀ c ∈ ds, c.isDigit = true :=
    fun c member => digits c (written ▸ List.mem_cons_of_mem d member)
  rw [written, List.cons_append, skipNumber.eq_def]
  split
  · contradiction
  · -- a zero, which stands alone
    rename_i c after same
    obtain ⟨rfl, same⟩ := List.cons.inj same
    cases natChars_zero_head written
    cases same
    simp [(apart c rfl).1, skipAfterInteger_detached apart]
  · rename_i c after _ same
    obtain ⟨rfl, rfl⟩ := List.cons.inj same
    rw [if_pos digit, dropWhile_digits later apart, skipAfterInteger_detached apart]

/-! ### Rounds -/

section Rounds

variable {b l cs : List Char} {frame : Frame} {frames : List Frame} (fuel : Nat)

theorem skipFrames_blank (blank : Blank b) :
    skipFrames (fuel + 1) .before frames (b ++ rest) =
      skipFrames (fuel + 1) .before frames rest := by
  rw [skipFrames, skipFrames, skipSpace_append blank]

theorem skipFrames_digit {d : Char} (digit : d.isDigit = true) {ds : List Char}
    (passed : skipNumber (d :: ds) = .ok rest) :
    skipFrames (fuel + 1) .before frames (d :: ds) = skipFrames fuel .after frames rest := by
  rw [skipFrames, skipSpace_cons (isSpace_of_isDigit digit)]
  split
  · contradiction
  all_goals rename_i same; obtain ⟨rfl, rfl⟩ := List.cons.inj same
  all_goals first | contradiction | skip
  rw [if_pos digit, passed]

theorem skipFrames_int (k : Int) (apart : Detached rest) :
    skipFrames (fuel + 1) .before frames (Integer.chars k ++ rest) =
      skipFrames fuel .after frames rest := by
  by_cases negative : k < 0
  · rw [Integer.chars, if_pos negative, List.cons_append, skipFrames, skipSpace_cons (by decide)]
    simp only [skipNumber_natChars _ apart]
  · have passed := skipNumber_natChars k.natAbs apart
    rw [Integer.chars, if_neg negative]
    obtain ⟨d, ds, chars, digit⟩ := Integer.natChars_head k.natAbs
    rw [chars, List.cons_append] at passed ⊢
    exact skipFrames_digit fuel digit passed

theorem skipFrames_string (s : String) :
    skipFrames (fuel + 1) .before frames (stringChars s ++ rest) =
      skipFrames fuel .after frames rest := by
  have passed := skipString_escaped s.toList rest
  rw [stringChars, List.cons_append, List.append_assoc, skipFrames, skipSpace_cons (by decide)]
  simp only [List.cons_append, List.nil_append, passed]

/-- The standing in which a frame is told whether it goes on. -/
def Standing.within : Bool → Standing
  | true => .inside
  | false => .after

/-- A frame is closed, whether anything stood in it or not. -/
theorem skipFrames_close (blank : Blank b) {c : Char} (solid : isSpace c = false)
    (closing : closes frame c = true) (first : Bool) :
    skipFrames (fuel + 1) (.within first) (frame :: frames) (b ++ c :: rest) =
      skipFrames fuel .after frames rest := by
  cases first <;>
    simp only [Standing.within, skipFrames, skipSpace_append blank, skipSpace_cons solid, closing,
      if_true]

/-- An item of an array is gone to. -/
theorem skipFrames_item {first : Bool} (lead : Lead first l) {c : Char}
    (solid : isSpace c = false) (going : c ≠ ']') :
    skipFrames (fuel + 2) (.within first) (.array :: frames) (l ++ c :: rest) =
      skipFrames (fuel + 1) .before (.array :: frames) (c :: rest) := by
  have open' : closes .array c = false := by simpa [closes] using going
  cases lead with
  | first blank =>
      simp [Standing.within, skipFrames.eq_def (fuel + 2), skipSpace_append blank,
        skipSpace_cons solid, open', skipKey]
  | next blank blank' =>
      have comma : isSpace ',' = false := by decide
      have goesOn : closes .array ',' = false := by decide
      simp only [Standing.within, List.append_assoc, List.cons_append, skipFrames.eq_def (fuel + 2),
        skipSpace_append blank, skipSpace_cons comma, goesOn, skipKey]
      exact skipFrames_blank fuel blank'

/-- The value of a member of an object is gone to. -/
theorem skipFrames_member {first : Bool} (lead : Lead first l) (key : String) (blank : Blank b) :
    skipFrames (fuel + 1) (.within first) (.object :: frames)
        (l ++ stringChars key ++ b ++ ':' :: rest) =
      skipFrames fuel .before (.object :: frames) rest := by
  have passed := skipString_escaped key.toList (b ++ ':' :: rest)
  have quote : isSpace '"' = false := by decide
  have colon := readColon_append blank rest
  cases lead with
  | first space =>
      simp only [Standing.within, skipFrames, stringChars, List.append_assoc, List.cons_append,
        List.nil_append, skipSpace_append space, skipSpace_cons quote, skipKey, passed, colon]
      rfl
  | next space space' =>
      have comma : isSpace ',' = false := by decide
      simp only [Standing.within, skipFrames, stringChars, List.append_assoc, List.cons_append,
        List.nil_append, skipSpace_append space, skipSpace_append space', skipSpace_cons comma,
        skipSpace_cons quote, skipKey, passed, colon]
      rfl

end Rounds

/-! ### Whatever is written is passed over -/

/-- How many rounds the characters of a piece take, and where they leave the loop. -/
def Skips : Piece → List Char → Prop
  | .value _, cs => ∃ rounds, rounds + 1 < 2 * cs.length ∧ ∀ fuel frames rest, Detached rest →
      skipFrames (fuel + rounds + 1) .before frames (cs ++ rest) =
        skipFrames fuel .after frames rest
  | .items first _, cs => ∃ rounds ≤ 2 * cs.length, ∀ fuel frames rest,
      skipFrames (fuel + rounds) (.within first) (.array :: frames) (cs ++ rest) =
        skipFrames fuel .after frames rest
  | .members first _, cs => ∃ rounds ≤ 2 * cs.length, ∀ fuel frames rest,
      skipFrames (fuel + rounds) (.within first) (.object :: frames) (cs ++ rest) =
        skipFrames fuel .after frames rest

/-- Whatever is written is passed over in a number of rounds that its length bounds. -/
theorem Written.skips {n : Nat} {piece : Piece} {cs : List Char} (written : Written n piece cs) :
    Skips piece cs := by
  induction written with
  | null => exact ⟨0, by decide, fun fuel frames rest _ => rfl⟩
  | bool x =>
      cases x
      · exact ⟨0, by decide, fun fuel frames rest _ => rfl⟩
      · exact ⟨0, by decide, fun fuel frames rest _ => rfl⟩
  | @int n k word =>
      obtain ⟨d, ds, chars, -⟩ := (@Written.int n k word).head
      have bound : 0 + 1 < 2 * (Integer.chars k).length := by
        rw [chars, List.length_cons]
        omega
      exact ⟨0, bound, fun fuel frames rest apart => skipFrames_int fuel k apart⟩
  | string s =>
      have bound : 0 + 1 < 2 * (stringChars s).length := by
        rw [stringChars, List.length_cons]
        omega
      exact ⟨0, bound, fun fuel frames rest _ => skipFrames_string fuel s⟩
  | array items ih =>
      obtain ⟨rounds, bound, passes⟩ := ih
      refine ⟨rounds, by rw [List.length_cons]; omega, fun fuel frames rest _ => ?_⟩
      rw [List.cons_append, skipFrames, skipSpace_cons (by decide)]
      exact passes fuel frames rest
  | object members ih =>
      obtain ⟨rounds, bound, passes⟩ := ih
      refine ⟨rounds, by rw [List.length_cons]; omega, fun fuel frames rest _ => ?_⟩
      rw [List.cons_append, skipFrames, skipSpace_cons (by decide)]
      exact passes fuel frames rest
  | noItem blank =>
      refine ⟨1, by simp; omega, fun fuel frames rest => ?_⟩
      rw [List.append_assoc]
      exact skipFrames_close fuel blank (by decide) rfl _
  | @item n first v vs l cs ds lead value items ihValue ihItems =>
      obtain ⟨c, t, rfl, solid, going⟩ := value.head
      obtain ⟨rounds, bound, passes⟩ := ihValue
      obtain ⟨more, bound', others⟩ := ihItems
      refine ⟨more + rounds + 2, by simp only [List.length_append] at *; omega, ?_⟩
      intro fuel frames rest
      have begun := @skipFrames_item (t ++ (ds ++ rest)) l frames (fuel + more + rounds) first lead
        c solid going
      have passed :=
        passes (fuel + more) (.array :: frames) (ds ++ rest) (items.detached_items rest)
      simp only [List.append_assoc, List.cons_append, ← Nat.add_assoc] at begun passed ⊢
      exact begun.trans (passed.trans (others fuel frames rest))
  | noMember blank =>
      refine ⟨1, by simp; omega, fun fuel frames rest => ?_⟩
      rw [List.append_assoc]
      exact skipFrames_close fuel blank (by decide) rfl _
  | @member n first key v ms l b b' cs ds lead blank blank' value members ihValue ihMembers =>
      obtain ⟨rounds, bound, passes⟩ := ihValue
      obtain ⟨more, bound', others⟩ := ihMembers
      refine ⟨more + rounds + 2, by simp only [List.length_append] at *; omega, ?_⟩
      intro fuel frames rest
      have begun := @skipFrames_member (b' ++ (cs ++ (ds ++ rest))) b l frames
        (fuel + more + rounds + 1) first lead key blank
      have spaced := @skipFrames_blank (cs ++ (ds ++ rest)) b' (.object :: frames)
        (fuel + more + rounds) blank'
      have passed := passes (fuel + more) (.object :: frames) (ds ++ rest)
        (members.detached_members rest)
      simp only [List.append_assoc, List.cons_append, ← Nat.add_assoc] at begun passed ⊢
      exact begun.trans (spaced.trans (passed.trans (others fuel frames rest)))

/-- A written value is passed over, with blanks in front of it. -/
theorem skipValue_written {n : Nat} {v : Json} {b cs : List Char} (blank : Blank b)
    (written : Written n (.value v) cs) (apart : Detached rest) :
    skipValue (b ++ (cs ++ rest)) = .ok rest := by
  obtain ⟨rounds, bound, passes⟩ := written.skips
  -- The fuel is enough for the rounds of the value and one more, in which nothing is open.
  obtain ⟨left, enough⟩ : ∃ left, 2 * (b ++ (cs ++ rest)).length + 2 = left + 1 + rounds + 1 := by
    refine ⟨2 * (b ++ (cs ++ rest)).length - rounds, ?_⟩
    simp only [List.length_append]
    omega
  rw [skipValue, enough, skipFrames_blank _ blank, passes (left + 1) [] rest apart, skipFrames]

end GivenNames.Json
