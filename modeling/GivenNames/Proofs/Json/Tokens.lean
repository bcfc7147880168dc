import GivenNames.Json.Printer
import GivenNames.Json.Reader

/-!
Tokens of JSON read back.

Main statements: a printed string is read up to its closing quote as the characters it stands for
(`readString_escaped`), and the printed digits of a word are read as that word, unless what follows
could be a part of the numeral (`readNumber_natChars`). Blanks in front of a token are passed over
(`skipSpace_append`).
-/

namespace GivenNames.Json

/-! ### Blanks -/

/-- Nothing but characters that may stand between tokens. -/
def Blank (cs : List Char) : Prop :=
  ∀ c ∈ cs, isSpace c = true

theorem blank_nil : Blank [] :=
  fun _ member => nomatch member

theorem skipSpace_cons {c : Char} (solid : isSpace c = false) (rest : List Char) :
    skipSpace (c :: rest) = c :: rest := by
  simp [skipSpace, solid]

theorem skipSpace_append {b : List Char} (blank : Blank b) (rest : List Char) :
    skipSpace (b ++ rest) = skipSpace rest :=
  List.dropWhile_append_of_pos blank

theorem Blank.skipSpace {b : List Char} (blank : Blank b) : skipSpace b = [] := by
  simpa [Json.skipSpace] using skipSpace_append blank []

/-! ### Strings -/

theorem hexDigit?_hexChar : ∀ {n : Nat}, n < 16 → hexDigit? (hexChar n) = some n := by
  decide

/-- A control is escaped by its code point, which two digits hold. -/
theorem readString_control {c : Char} (low : c.toNat < 0x20) (rest : List Char) :
    readString ('\\' :: 'u' :: '0' :: '0' :: hexChar (c.toNat / 16) :: hexChar (c.toNat % 16) ::
      rest) = before c (readString rest) := by
  have zero : hexDigit? '0' = some 0 := rfl
  have unit : hexUnit? '0' '0' (hexChar (c.toNat / 16)) (hexChar (c.toNat % 16)) =
      some c.toNat := by
    have high := hexDigit?_hexChar (n := c.toNat / 16) (by omega)
    have last := hexDigit?_hexChar (n := c.toNat % 16) (by omega)
    simp only [hexUnit?, zero, high, last, Option.some.injEq]
    omega
  have trailing : isTrailingSurrogate c.toNat = false := by simp [isTrailingSurrogate]; omega
  have leading : isLeadingSurrogate c.toNat = false := by simp [isLeadingSurrogate]; omega
  simp [readString, unit, trailing, leading]

theorem readString_escapeChar (c : Char) (rest : List Char) :
    readString (escapeChar c ++ rest) = before c (readString rest) := by
  unfold escapeChar
  split
  · subst c; simp [readString, shortEscape?]
  split
  · subst c; simp [readString, shortEscape?]
  split
  · subst c; simp [readString, shortEscape?]
  split
  · subst c; simp [readString, shortEscape?]
  split
  · subst c; simp [readString, shortEscape?]
  split
  · subst c; simp [readString, shortEscape?]
  split
  · subst c; simp [readString, shortEscape?]
  split
  · rename_i low
    exact readString_control low rest
  · rename_i quote backslash _ _ _ _ _ high
    rw [List.singleton_append, readString.eq_def]
    have printable : ¬c.toNat < 0x20 := high
    split <;> grind

/-- The escaped characters of a string read back as those characters. -/
theorem readString_escaped (cs rest : List Char) :
    readString (cs.flatMap escapeChar ++ '"' :: rest) = .ok (cs, rest) := by
  induction cs with
  | nil => simp [readString]
  | cons c cs ih =>
      rw [List.flatMap_cons, List.append_assoc, readString_escapeChar, ih]
      rfl

/-! ### Numerals -/

/-- What follows a numeral cannot be read as a part of it. -/
def Detached (rest : List Char) : Prop :=
  ∀ c ∈ rest.head?, c.isDigit = false ∧ c ≠ '.' ∧ c ≠ 'e' ∧ c ≠ 'E'

theorem detached_nil : Detached [] :=
  fun _ member => nomatch member

theorem detached_cons {c : Char} (apart : c.isDigit = false ∧ c ≠ '.' ∧ c ≠ 'e' ∧ c ≠ 'E')
    (rest : List Char) : Detached (c :: rest) := by
  rintro _ ⟨⟩
  exact apart

theorem Blank.detached {b : List Char} (blank : Blank b) {rest : List Char}
    (apart : Detached rest) : Detached (b ++ rest) := by
  cases b with
  | nil => exact apart
  | cons c b =>
      have space := blank c List.mem_cons_self
      simp only [isSpace, Bool.or_eq_true, beq_iff_eq] at space
      rcases space with ((rfl | rfl) | rfl) | rfl <;> exact detached_cons (by decide) _

theorem digit?_eq_none {rest : List Char} {c : Char} (apart : Detached (c :: rest)) :
    Integer.digit? c = none := by
  simp [Integer.digit?, (apart c rfl).1]

/-- Digits are taken into the significand as long as it does not get too great. -/
theorem integerPart_digits {cs : List Char} {sum : Nat} {rest : List Char}
    (digits : ∀ c ∈ cs, c.isDigit = true) (fits : Nat.ofDigitChars 10 cs sum ≤ maxSignificand)
    (apart : Detached rest) :
    integerPart sum (cs ++ rest) = (Nat.ofDigitChars 10 cs sum, 0, rest) := by
  induction cs generalizing sum with
  | nil =>
      cases rest with
      | nil => rfl
      | cons c rest => simp [integerPart, digit?_eq_none apart]
  | cons c cs ih =>
      have digit := Integer.digit?_digit (digits c List.mem_cons_self)
      rw [Integer.ofDigitChars_cons] at fits ⊢
      have here := Nat.le_trans (Integer.le_ofDigitChars cs _) fits
      simp only [List.cons_append, integerPart, digit, if_pos here]
      exact ih (fun d member => digits d (List.mem_cons_of_mem _ member)) fits

theorem natChars_zero_head {n : Nat} {cs : List Char} (head : Integer.natChars n = '0' :: cs) :
    cs = [] := by
  induction n using Nat.strongRecOn generalizing cs with
  | ind n ih =>
      rw [Integer.natChars, Nat.toDigits_eq_if (by decide)] at head
      split at head
      · exact (List.cons.inj head).2.symm
      · rename_i large
        obtain ⟨front, shorter⟩ : ∃ front, Nat.toDigits 10 (n / 10) = '0' :: front := by
          cases digits : Nat.toDigits 10 (n / 10) with
          | nil => exact absurd digits Nat.toDigits_ne_nil
          | cons d front =>
              rw [digits] at head
              exact ⟨front, by rw [(List.cons.inj head).1]⟩
        have value := @Nat.ofDigitChars_ten_toDigits (n / 10)
        rw [shorter, ih (n / 10) (by omega) shorter] at value
        simp [Nat.ofDigitChars] at value
        omega

theorem readAfterInteger_detached {rest : List Char} (apart : Detached rest) (negative : Bool)
    (significand : Nat) :
    readAfterInteger negative significand 0 rest = finishInteger negative significand rest := by
  unfold readAfterInteger
  split
  · exact absurd rfl (apart _ rfl).2.1
  · exact absurd rfl (apart _ rfl).2.2.1
  · exact absurd rfl (apart _ rfl).2.2.2
  · rfl

/-- The digits of a word read back as that word. -/
theorem readNumber_natChars {n : Nat} (fits : n ≤ maxSignificand) (negative : Bool)
    {rest : List Char} (apart : Detached rest) :
    readNumber negative (Integer.natChars n ++ rest) = finishInteger negative n rest := by
  have value : Nat.ofDigitChars 10 (Integer.natChars n) 0 = n := Nat.ofDigitChars_ten_toDigits
  have digits := Integer.natChars_digits n
  obtain ⟨d, ds, written, digit⟩ := Integer.natChars_head n
  rw [written, Integer.ofDigitChars_cons, Nat.zero_mul, Nat.zero_add] at value
  have whole : integerPart (d.toNat - 48) (ds ++ rest) = (n, 0, rest) := by
    have later : ∀ c ∈ ds, c.isDigit = true :=
      fun c member => digits c (written ▸ List.mem_cons_of_mem d member)
    rw [integerPart_digits later (value ▸ fits) apart, value]
  rw [written, List.cons_append, readNumber.eq_def]
  split
  · contradiction
  · -- a zero, which stands alone
    rename_i c after same
    obtain ⟨rfl, same⟩ := List.cons.inj same
    cases natChars_zero_head written
    cases same
    cases value
    simp [(apart c rfl).1, readAfterInteger_detached apart, Nat.ofDigitChars]
  · rename_i c after _ same
    obtain ⟨rfl, rfl⟩ := List.cons.inj same
    simp only [Integer.digit?_digit digit, whole]
    exact readAfterInteger_detached apart negative n

end GivenNames.Json
