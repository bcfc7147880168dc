import GivenNames.Json.Printer
import GivenNames.Proofs.Json.Tokens

/-!
Numerals, and the printed numbers among them.

A numeral is an integer part without a leading zero, with a fraction or an exponent or both. Main
statements: the decimal form of an integer is a numeral (`numeral_integer`), and so is the shortest
form of every floating-point number (`numeral_float`): its digits never begin with a zero, because a
decimal inside the interval around a number that is not zero is not zero itself.
-/

namespace GivenNames

/-! ### Numerals -/

namespace Json.Grammar

/-- One digit or more. -/
def Digits (cs : List Char) : Prop :=
  cs ≠ [] ∧ ∀ c ∈ cs, c.isDigit = true

/-- The integer part of a numeral; a zero in front stands alone. -/
def Whole (cs : List Char) : Prop :=
  Digits cs ∧ (cs.head? = some '0' → cs = ['0'])

/-- The fraction of a numeral, if it has one. -/
inductive Fraction : List Char → Prop
  | absent : Fraction []
  | point {ds : List Char} (digits : Digits ds) : Fraction ('.' :: ds)

/-- The exponent of a numeral, if it has one. -/
inductive Exponent : List Char → Prop
  | absent : Exponent []
  | letter {c : Char} {sign ds : List Char} (letter : c = 'e' ∨ c = 'E')
      (signed : sign ∈ [[], ['+'], ['-']]) (digits : Digits ds) : Exponent (c :: (sign ++ ds))

/-- A numeral. -/
inductive Numeral : List Char → Prop
  | mk {sign whole fraction exponent : List Char} (signed : sign ∈ [[], ['-']])
      (integer : Whole whole) (fractional : Fraction fraction) (scaled : Exponent exponent) :
      Numeral (sign ++ whole ++ fraction ++ exponent)

end Json.Grammar

/-! ### Shortest decimals -/

namespace Binary64

theorem Interval.holds_pos {i : Interval} (positive : 0 < i.low) {d : Decimal}
    (inside : i.holds d = true) : 0 < d.digits := by
  refine Nat.pos_of_ne_zero fun zero => ?_
  have scaled : 0 < i.low * Nat.pow 10 (-d.exponent).toNat :=
    Nat.mul_pos positive (Nat.pow_pos (by decide))
  unfold Interval.holds at inside
  simp only [zero, Nat.zero_mul] at inside
  split at inside <;> simp only [Bool.and_eq_true, decide_eq_true_eq] at inside <;> omega

theorem interval_low_pos {x : Binary64} (nonzero : x.significand ≠ 0) : 0 < (interval x).low := by
  have unit : 0 < Nat.pow 2 x.exponent.toNat := Nat.pow_pos (by decide)
  have whole : 4 * Nat.pow 2 x.exponent.toNat ≤ 4 * x.significand * Nat.pow 2 x.exponent.toNat :=
    Nat.mul_le_mul_right _ (by omega)
  simp only [interval]
  split <;> omega

theorem shortestAmong_pos {i : Interval} (positive : 0 < i.low) {leading : Int} {counts : List Nat}
    {d : Decimal} (found : shortestAmong i leading counts = some d) : 0 < d.digits := by
  induction counts with
  | nil => contradiction
  | cons count counts ih =>
      unfold shortestAmong at found
      split at found
      · rename_i e here
        cases found
        exact Interval.holds_pos positive (List.find?_some here)
      · exact ih found

/-- The shortest decimal of a number that is not zero has digits, or else the exponent zero. -/
theorem shortest_pos {x : Binary64} (nonzero : x.significand ≠ 0) :
    0 < x.shortest.digits ∨ x.shortest = ⟨0, 0⟩ := by
  simp only [shortest]
  generalize (List.range 17).map (· + 1) = counts
  cases found : shortestAmong x.interval
      (leadingExponent x.interval.value x.interval.denominator) counts with
  | some d => exact .inl (shortestAmong_pos (interval_low_pos nonzero) found)
  | none =>
      rcases Nat.eq_zero_or_pos (x.interval.value / x.interval.denominator) with zero | positive
      · exact .inr (by rw [zero]; rfl)
      · exact .inl positive

end Binary64

/-! ### Integers -/

namespace Json.Grammar

theorem digits_cons {d : Char} {ds : List Char} (first : d.isDigit = true)
    (later : ∀ c ∈ ds, c.isDigit = true) : Digits (d :: ds) :=
  ⟨List.cons_ne_nil d ds, by simpa using ⟨first, later⟩⟩

theorem whole_cons {d : Char} {ds : List Char} (digits : Digits (d :: ds)) (first : d ≠ '0') :
    Whole (d :: ds) :=
  ⟨digits, fun head => absurd (Option.some.inj head) first⟩

theorem digits_natChars (n : Nat) : Digits (Integer.natChars n) :=
  ⟨Nat.toDigits_ne_nil, Integer.natChars_digits n⟩

theorem whole_natChars (n : Nat) : Whole (Integer.natChars n) := by
  refine ⟨digits_natChars n, fun head => ?_⟩
  obtain ⟨d, ds, written, _⟩ := Integer.natChars_head n
  rw [written] at head ⊢
  obtain rfl := Option.some.inj head
  rw [natChars_zero_head written]

theorem numeral_integer (n : Int) : Numeral (Integer.chars n) := by
  have whole := whole_natChars n.natAbs
  unfold Integer.chars
  split
  · have minus : ['-'] ∈ [[], ['-']] := by decide
    simpa using Numeral.mk minus whole .absent .absent
  · have none : [] ∈ [[], ['-']] := by decide
    simpa using Numeral.mk none whole .absent .absent

/-! ### Floating-point numbers -/

theorem isDigit_of_mem_padded {ds : List Char} (digits : ∀ c ∈ ds, c.isDigit = true) (n m : Nat) :
    ∀ c ∈ List.replicate n '0' ++ ds ++ List.replicate m '0', c.isDigit = true := by
  intro c here
  simp only [List.mem_append, List.mem_replicate] at here
  rcases here with (⟨_, rfl⟩ | inside) | ⟨_, rfl⟩
  · decide
  · exact digits c inside
  · decide

/-- A numeral of the grammar, without its sign. -/
def Unsigned (cs : List Char) : Prop :=
  ∃ whole fraction exponent, Whole whole ∧ Fraction fraction ∧ Exponent exponent ∧
    cs = whole ++ fraction ++ exponent

theorem whole_zero : Whole ['0'] :=
  ⟨digits_cons (by decide) (by simp), fun _ => rfl⟩

/-- Digits that do not begin with a zero make a numeral, wherever the point stands. -/
theorem unsigned_numeral {d : Char} {ds : List Char} (digits : Digits (d :: ds)) (first : d ≠ '0')
    (leading : Int) : Unsigned (Binary64.numeral (d :: ds) leading) := by
  simp only [Binary64.numeral]
  split
  · split
    · have padded := isDigit_of_mem_padded digits.2 ((-leading).toNat - 1) 0
      simp only [List.replicate_zero, List.append_nil] at padded
      exact ⟨['0'], _, [], whole_zero, .point ⟨by simp, padded⟩, .absent, by simp⟩
    · have padded := isDigit_of_mem_padded digits.2 0 (leading.toNat + 1 - (d :: ds).length)
      generalize List.replicate (leading.toNat + 1 - (d :: ds).length) '0' = zeros at padded ⊢
      simp only [List.replicate_zero, List.nil_append] at padded
      have front : Digits (d :: (ds ++ zeros).take leading.toNat) :=
        ⟨by simp, fun c here => padded c (List.mem_of_mem_take (i := leading.toNat + 1) here)⟩
      have after : Digits (if ((d :: ds ++ zeros).drop (leading.toNat + 1)).isEmpty then ['0']
          else (d :: ds ++ zeros).drop (leading.toNat + 1)) := by
        split
        · exact digits_cons (by decide) (by simp)
        · rename_i more
          exact ⟨by simpa using more, fun c here => padded c (List.mem_of_mem_drop here)⟩
      exact ⟨_, _, [], whole_cons front first, .point after, .absent, by simp⟩
  · have exponent : Exponent ('e' :: ([if leading < 0 then '-' else '+'] ++
        Integer.natChars leading.natAbs)) :=
      .letter (.inl rfl) (by split <;> simp) (digits_natChars _)
    have one : Digits [d] := digits_cons (digits.2 d List.mem_cons_self) (by simp)
    cases ds with
    | nil => exact ⟨[d], [], _, whole_cons one first, .absent, exponent, rfl⟩
    | cons e es =>
        have later : Digits (e :: es) :=
          ⟨by simp, fun c here => digits.2 c (List.mem_cons_of_mem d here)⟩
        exact ⟨[d], _, _, whole_cons one first, .point later, exponent, by simp⟩

theorem natChars_head_of_pos {n : Nat} (positive : 0 < n) :
    ∃ d ds, Integer.natChars n = d :: ds ∧ d ≠ '0' := by
  obtain ⟨d, ds, written, _⟩ := Integer.natChars_head n
  refine ⟨d, ds, written, ?_⟩
  rintro rfl
  have value : Nat.ofDigitChars 10 (Integer.natChars n) 0 = n := Nat.ofDigitChars_ten_toDigits
  rw [written, natChars_zero_head written] at value
  simp [Nat.ofDigitChars] at value
  omega

/-- Dropping zeros from the end leaves the first digit of what does not begin with one. -/
theorem dropZeros_cons {d : Char} (first : d ≠ '0') (ds : List Char) :
    ((d :: ds).reverse.dropWhile (· == '0')).reverse =
      d :: (ds.reverse.dropWhile (· == '0')).reverse := by
  rw [List.reverse_cons, List.dropWhile_append]
  split
  · rename_i empty
    simp [first, List.isEmpty_iff.mp empty]
  · simp

theorem scientific_head {x : Binary64.Decimal} (positive : 0 < x.digits) :
    ∃ d ds, x.scientific.1 = d :: ds ∧ Digits (d :: ds) ∧ d ≠ '0' := by
  obtain ⟨d, ds, written, first⟩ := natChars_head_of_pos positive
  have digits := written ▸ Integer.natChars_digits x.digits
  refine ⟨d, (ds.reverse.dropWhile (· == '0')).reverse, ?_, ?_, first⟩
  · simp only [Binary64.Decimal.scientific, written, dropZeros_cons first]
  · refine ⟨List.cons_ne_nil _ _, fun c here => digits c ?_⟩
    rcases List.mem_cons.mp here with rfl | kept
    · exact List.mem_cons_self
    · have inside := (List.dropWhile_sublist _).subset (List.mem_reverse.mp kept)
      exact List.mem_cons_of_mem d (List.mem_reverse.mp inside)

/-- The shortest form of a floating-point number is a numeral. -/
theorem numeral_float (x : Binary64) : Numeral x.chars := by
  have body : Unsigned (if x.isZero then ['0', '.', '0']
      else Binary64.numeral x.shortest.scientific.1 x.shortest.scientific.2) := by
    split
    · exact ⟨['0'], ['.', '0'], [], whole_zero, .point whole_zero.1, .absent, rfl⟩
    · rename_i nonzero
      rcases Binary64.shortest_pos (x := x) (by simpa [Binary64.isZero] using nonzero) with
        positive | zero
      · obtain ⟨d, ds, digits, all, first⟩ := scientific_head positive
        rw [digits]
        exact unsigned_numeral all first _
      · rw [zero]
        exact ⟨['0'], ['.', '0'], [], whole_zero, .point whole_zero.1, .absent, by decide⟩
  obtain ⟨whole, fraction, exponent, integer, fractional, scaled, written⟩ := body
  simp only [Binary64.chars]
  rw [written]
  split
  · have minus : ['-'] ∈ [[], ['-']] := by decide
    exact .mk minus integer fractional scaled
  · have none : [] ∈ [[], ['-']] := by decide
    exact .mk none integer fractional scaled

end Json.Grammar

end GivenNames
