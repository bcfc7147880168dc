/-!
Decimal integers: how they are written, how they are read, and how they fit into words.

An integer is read from an optional sign and ASCII digits, left to right; the first character that
is no digit, or the first digit that leaves the range, decides the error. Main statement: what
`Integer.chars` writes, `Integer.read` reads back (`read_chars`).
-/

namespace GivenNames

/-- Why a text or a number is not an integer of the wanted range. -/
inductive IntegerError where
  | empty
  | invalidDigit
  | tooLarge
  | tooSmall
  deriving DecidableEq, Repr

/-- The wording of an integer error. -/
def IntegerError.message : IntegerError → String
  | .empty => "cannot parse integer from empty string"
  | .invalidDigit => "invalid digit found in string"
  | .tooLarge => "number too large to fit in target type"
  | .tooSmall => "number too small to fit in target type"

namespace Integer

/-- The closed range of the signed words of 64 bits. -/
def InInt64 (n : Int) : Prop :=
  -0x8000000000000000 ≤ n ∧ n ≤ 0x7fffffffffffffff

instance (n : Int) : Decidable (InInt64 n) :=
  inferInstanceAs (Decidable (_ ∧ _))

/-! ### Writing -/

/-- The decimal digits of a natural number. -/
def natChars (n : Nat) : List Char :=
  Nat.toDigits 10 n

/-- The decimal form of an integer: a minus sign where it is negative, then digits. -/
def chars (n : Int) : List Char :=
  if n < 0 then '-' :: natChars n.natAbs else natChars n.natAbs

/-- The decimal form as a text. -/
def text (n : Int) : String :=
  String.ofList (chars n)

/-- The decimal form of a natural number as a text. -/
def natText (n : Nat) : String :=
  String.ofList (natChars n)

/-! ### Reading -/

/-- The value of an ASCII digit. -/
def digit? (c : Char) : Option Nat :=
  if c.isDigit then some (c.toNat - 48) else none

/-- Reads the digits that follow those worth `sum`; `beyond` is the error of a value above
`limit`. -/
def readDigits (limit : Nat) (beyond : IntegerError) (sum : Nat) :
    List Char → Except IntegerError Nat
  | [] => .ok sum
  | c :: cs =>
    match digit? c with
    | none => .error .invalidDigit
    | some d =>
      if sum * 10 + d ≤ limit then readDigits limit beyond (sum * 10 + d) cs else .error beyond

/-- Reads an integer of the signed 64-bit range. -/
def read : List Char → Except IntegerError Int
  | [] => .error .empty
  | ['+'] => .error .invalidDigit
  | ['-'] => .error .invalidDigit
  | '+' :: digits => (readDigits 0x7fffffffffffffff .tooLarge 0 digits).map Int.ofNat
  | '-' :: digits => (readDigits 0x8000000000000000 .tooSmall 0 digits).map fun n => -Int.ofNat n
  | digits => (readDigits 0x7fffffffffffffff .tooLarge 0 digits).map Int.ofNat

/-! ### Fitting into words -/

/-- Passes an integer of the closed range on, and says on which side any other one lies. -/
def inRange (lo hi n : Int) : Except IntegerError Int :=
  if n < lo then .error .tooSmall else if hi < n then .error .tooLarge else .ok n

/-- The signed word of 32 bits with this value. -/
def toInt32 (n : Int) : Except IntegerError Int32 :=
  (inRange (-0x80000000) 0x7fffffff n).map Int32.ofInt

/-- The unsigned word of 8 bits with this value. -/
def toUInt8 (n : Int) : Except IntegerError UInt8 :=
  (inRange 0 255 n).map fun n => n.toNat.toUInt8

/-- The unsigned word of 64 bits with this value. -/
def toUInt64 (n : Int) : Except IntegerError UInt64 :=
  (inRange 0 0xffffffffffffffff n).map fun n => n.toNat.toUInt64

/-! ### What is written reads back -/

theorem digit?_digit {c : Char} (h : c.isDigit = true) : digit? c = some (c.toNat - 48) := by
  simp [digit?, h]

theorem ofDigitChars_cons (c : Char) (cs : List Char) (sum : Nat) :
    Nat.ofDigitChars 10 (c :: cs) sum = Nat.ofDigitChars 10 cs (sum * 10 + (c.toNat - 48)) := by
  rw [Nat.ofDigitChars_cons, Nat.mul_comm]
  rfl

theorem le_ofDigitChars (cs : List Char) (sum : Nat) : sum ≤ Nat.ofDigitChars 10 cs sum := by
  induction cs generalizing sum with
  | nil => exact Nat.le_refl sum
  | cons c cs ih =>
      rw [ofDigitChars_cons]
      exact Nat.le_trans (by omega) (ih _)

/-- Digits are read as the number they stand for, as long as it stays in range. -/
theorem readDigits_eq (limit : Nat) (beyond : IntegerError) (sum : Nat) (cs : List Char)
    (digits : ∀ c ∈ cs, c.isDigit = true) (fits : Nat.ofDigitChars 10 cs sum ≤ limit) :
    readDigits limit beyond sum cs = .ok (Nat.ofDigitChars 10 cs sum) := by
  induction cs generalizing sum with
  | nil => rfl
  | cons c cs ih =>
      have digit := digit?_digit (digits c List.mem_cons_self)
      rw [ofDigitChars_cons] at fits ⊢
      have here : sum * 10 + (c.toNat - 48) ≤ limit := Nat.le_trans (le_ofDigitChars cs _) fits
      simp only [readDigits, digit, if_pos here]
      exact ih _ (fun d member => digits d (List.mem_cons_of_mem _ member)) fits

theorem natChars_digits (n : Nat) : ∀ c ∈ natChars n, c.isDigit = true :=
  fun _ h => Nat.isDigit_of_mem_toDigits (by omega) (by omega) h

theorem natChars_head (n : Nat) : ∃ d ds, natChars n = d :: ds ∧ d.isDigit = true := by
  cases written : natChars n with
  | nil => exact absurd written Nat.toDigits_ne_nil
  | cons d ds => exact ⟨d, ds, rfl, natChars_digits n d (written ▸ List.mem_cons_self)⟩

theorem readDigits_natChars {limit : Nat} (beyond : IntegerError) {n : Nat} (h : n ≤ limit) :
    readDigits limit beyond 0 (natChars n) = .ok n := by
  have value : Nat.ofDigitChars 10 (natChars n) 0 = n := Nat.ofDigitChars_ten_toDigits
  have read :=
    readDigits_eq limit beyond 0 (natChars n) (natChars_digits n) (by rw [value]; exact h)
  rwa [value] at read

/-- The written form of an integer of the signed 64-bit range reads back as that integer. -/
theorem read_chars {n : Int} (h : InInt64 n) : read (chars n) = .ok n := by
  obtain ⟨lo, hi⟩ := h
  obtain ⟨d, ds, written, digit⟩ := natChars_head n.natAbs
  by_cases neg : n < 0
  · have bound : n.natAbs ≤ 0x8000000000000000 := by omega
    have back := readDigits_natChars .tooSmall bound
    rw [written] at back
    simp only [chars, if_pos neg, written, read, back, Except.map]
    congr 1
    simp only [Int.ofNat_eq_natCast]
    omega
  · have bound : n.natAbs ≤ 0x7fffffffffffffff := by omega
    have back := readDigits_natChars .tooLarge bound
    have plus : d ≠ '+' := by rintro rfl; simp at digit
    have minus : d ≠ '-' := by rintro rfl; simp at digit
    rw [written] at back
    simp only [chars, if_neg neg, written]
    unfold read
    split
    · simp_all
    · simp_all
    · simp_all
    · simp_all
    · simp_all
    · rw [back]
      simp only [Except.map, Int.ofNat_eq_natCast]
      congr 1
      omega

end Integer

end GivenNames
