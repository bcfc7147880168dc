/-!
Floating-point numbers of 64 bits, as exact values.

A finite number is a sign, a significand below 2^53 and a power of two. Arithmetic is exact rational
arithmetic followed by one rounding to the nearest number, a tie going to the even significand; a
result beyond the largest finite number is `none`.
-/

namespace GivenNames

/-- The number ± `significand` · 2 ^ `exponent`. -/
structure Binary64 where
  negative : Bool
  significand : Nat
  exponent : Int
  deriving DecidableEq, Repr

namespace Binary64

/-- The exponent of the smallest numbers. -/
def minExponent : Int := -1074

/-- The exponent of the largest numbers. -/
def maxExponent : Int := 971

/-- The least significand of 53 bits. -/
def fullSignificand : Nat := 0x10000000000000

/-- The number zero, with a sign. -/
def zero (negative : Bool) : Binary64 :=
  ⟨negative, 0, minExponent⟩

def isZero (x : Binary64) : Bool :=
  x.significand == 0

/-- The same number with the other sign. -/
def neg (x : Binary64) : Binary64 :=
  { x with negative := !x.negative }

/-- The quotient `num / den` scaled by 2 ^ -`exponent`, rounded to the nearest integer, a tie to the
even one. -/
def scaledNearest (num den : Nat) (exponent : Int) : Nat :=
  let n := num * Nat.pow 2 (-exponent).toNat
  let d := den * Nat.pow 2 exponent.toNat
  let q := n / d
  let r := n % d
  if d < 2 * r || (2 * r == d && q % 2 == 1) then q + 1 else q

/-- The power of two that gives the quotient `num / den` a significand of 53 bits, or the smallest
power where the quotient is too small for that. -/
def exponentOf (num den : Nat) : Int :=
  let guess : Int := (Nat.log2 num : Int) - (Nat.log2 den : Int) - 52
  let full := fullSignificand * den * Nat.pow 2 guess.toNat ≤ num * Nat.pow 2 (-guess).toNat
  max minExponent (if full then guess else guess - 1)

/-- The number nearest to `num / den`; `none` where it would not be finite. -/
def roundQuotient (num den : Nat) : Option Binary64 :=
  if num = 0 then some (zero false)
  else
    let e := exponentOf num den
    let m := scaledNearest num den e
    let (m, e) := if m = 2 * fullSignificand then (fullSignificand, e + 1) else (m, e)
    if maxExponent < e then none else some ⟨false, m, e⟩

/-- The number nearest to a natural number. -/
def ofNat? (n : Nat) : Option Binary64 :=
  roundQuotient n 1

/-- The number nearest to ten to the `k`. -/
def tenTo? (k : Nat) : Option Binary64 :=
  ofNat? (Nat.pow 10 k)

/-- The numerator of a number's size, in lowest powers of two. -/
def numerator (x : Binary64) : Nat :=
  x.significand * Nat.pow 2 x.exponent.toNat

/-- The denominator of a number's size. -/
def denominator (x : Binary64) : Nat :=
  Nat.pow 2 (-x.exponent).toNat

/-- The product of two sizes, rounded. -/
def mul? (x y : Binary64) : Option Binary64 :=
  roundQuotient (x.numerator * y.numerator) (x.denominator * y.denominator)

/-- The quotient of two sizes, rounded. -/
def div? (x y : Binary64) : Option Binary64 :=
  roundQuotient (x.numerator * y.denominator) (x.denominator * y.numerator)

/-- The largest power of ten that is used as one factor. -/
def largestTen : Nat := 308

/-- Scales a size by ten to the `exponent`, one rounding for each factor: divisions by the largest
factor come first while the exponent lies below its reach. `none` where the result is too large. -/
def scaleByTen (fuel : Nat) (x : Binary64) (exponent : Int) : Option Binary64 :=
  if exponent.natAbs ≤ largestTen then
    match tenTo? exponent.natAbs with
    | none => none
    | some ten => if 0 ≤ exponent then mul? x ten else div? x ten
  else if x.isZero then some x
  else if 0 ≤ exponent then none
  else
    match fuel with
    | 0 => some (zero false)
    | fuel + 1 =>
      match tenTo? largestTen with
      | none => none
      | some ten =>
        match div? x ten with
        | none => none
        | some y => scaleByTen fuel y (exponent + largestTen)

/-- The number written as `significand` · 10 ^ `exponent`. The significand is rounded first and then
scaled, so long numerals may miss the nearest number by one place. A significand below 2^64 is zero
after three divisions by the largest factor. -/
def ofDecimal (negative : Bool) (significand : Nat) (exponent : Int) : Option Binary64 :=
  match ofNat? significand with
  | none => none
  | some x => (scaleByTen 3 x exponent).map fun y => { y with negative := negative }

end Binary64

end GivenNames
