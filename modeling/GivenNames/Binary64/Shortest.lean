import GivenNames.Binary64
import GivenNames.Integer

/-!
The shortest decimal form of a floating-point number: the fewest digits that read back as the same
number, and of those the nearest to it.

The numbers that round to a given one form an interval, its ends included when the significand is
even. For one, two, up to seventeen digits the two neighbours of the value on the decimal grid of
that many digits are tried; the first grid with a neighbour inside the interval decides, the nearer
neighbour first and the even one in a tie.
-/

namespace GivenNames.Binary64

/-- A positive decimal: `digits` · 10 ^ `exponent`. -/
structure Decimal where
  digits : Nat
  exponent : Int
  deriving DecidableEq, Repr

/-- The interval of rationals that round to a positive number, over one common denominator. -/
structure Interval where
  low : Nat
  value : Nat
  high : Nat
  denominator : Nat
  closed : Bool

/-- The interval around a number. Below a power of two the numbers lie twice as close. -/
def interval (x : Binary64) : Interval :=
  let unit := Nat.pow 2 x.exponent.toNat
  let value := 4 * x.significand * unit
  let narrow := x.significand == fullSignificand && minExponent < x.exponent
  { low := value - (if narrow then unit else 2 * unit)
    value := value
    high := value + 2 * unit
    denominator := 4 * Nat.pow 2 (-x.exponent).toNat
    closed := x.significand % 2 == 0 }

/-- Whether `digits` · 10 ^ `exponent` lies in the interval. -/
def Interval.holds (i : Interval) (d : Decimal) : Bool :=
  let point := d.digits * Nat.pow 10 d.exponent.toNat * i.denominator
  let scale := Nat.pow 10 (-d.exponent).toNat
  if i.closed then i.low * scale ≤ point && point ≤ i.high * scale
  else i.low * scale < point && point < i.high * scale

/-- The decimal exponent of the leading digit of `num / den`. -/
def leadingExponent (num den : Nat) : Int :=
  let digits := fun n => (Integer.natChars n).length
  if den ≤ num then (digits (num / den) : Int) - 1
  else
    let k := digits den - digits num
    if den ≤ num * Nat.pow 10 k then -(k : Int) else -(k : Int) - 1

/-- The neighbours of the value on the grid of `exponent`, the nearer one first. -/
def neighbours (i : Interval) (exponent : Int) : List Decimal :=
  let num := i.value * Nat.pow 10 (-exponent).toNat
  let den := i.denominator * Nat.pow 10 exponent.toNat
  let below := num / den
  let rest := num % den
  let down : Decimal := ⟨below, exponent⟩
  let up : Decimal := ⟨below + 1, exponent⟩
  if 2 * rest < den || (2 * rest == den && below % 2 == 0) then [down, up] else [up, down]

/-- The first neighbour that reads back, among the grids of the given digit counts. -/
def shortestAmong (i : Interval) (leading : Int) : List Nat → Option Decimal
  | [] => none
  | count :: counts =>
    match (neighbours i (leading - (count : Int) + 1)).find? i.holds with
    | some d => some d
    | none => shortestAmong i leading counts

/-- The shortest decimal of a number that is not zero. -/
def shortest (x : Binary64) : Decimal :=
  let i := interval x
  let leading := leadingExponent i.value i.denominator
  (shortestAmong i leading ((List.range 17).map (· + 1))).getD
    ⟨i.value / i.denominator, 0⟩

/-- The digits of a decimal without trailing zeros, and the exponent of its leading digit. -/
def Decimal.scientific (d : Decimal) : List Char × Int :=
  let all := Integer.natChars d.digits
  let kept := (all.reverse.dropWhile (· == '0')).reverse
  (kept, d.exponent + all.length - 1)

/-- The least exponent of a leading digit that is written without an exponent. -/
def leastPlain : Int := -5

/-- The greatest exponent of a leading digit that is written without an exponent. -/
def greatestPlain : Int := 15

/-- Digits whose leading one has the given exponent, as a numeral: always with a point or an
exponent, so that it is never taken for an integer. -/
def numeral (digits : List Char) (leading : Int) : List Char :=
  if leastPlain ≤ leading && leading ≤ greatestPlain then
    if leading < 0 then
      ['0', '.'] ++ List.replicate ((-leading).toNat - 1) '0' ++ digits
    else
      let whole := leading.toNat + 1
      let padded := digits ++ List.replicate (whole - digits.length) '0'
      let fraction := padded.drop whole
      padded.take whole ++ ['.'] ++ (if fraction.isEmpty then ['0'] else fraction)
  else
    let mantissa :=
      match digits with
      | [] => ['0']
      | [d] => [d]
      | d :: ds => d :: '.' :: ds
    let sign := if leading < 0 then '-' else '+'
    mantissa ++ ['e', sign] ++ Integer.natChars leading.natAbs

/-- The shortest text that reads back as the number. -/
def chars (x : Binary64) : List Char :=
  let body :=
    if x.isZero then ['0', '.', '0']
    else
      let (digits, leading) := x.shortest.scientific
      numeral digits leading
  if x.negative then '-' :: body else body

end GivenNames.Binary64
