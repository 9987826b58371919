import SensorRelay.Binary64.Basic
import SensorRelay.Numeral

/-! # Rounding to the nearest value

A quotient of natural numbers is rounded to the nearest whole number, a half to the even one. The
same rule on the right grid gives the nearest binary64 value: of the units below `2 ^ 53` every
one is a value, and above that each doubling doubles the step. Rounded to hundredths, a finite
value is written with two decimals and all the digits before the point; the sign of zero is kept,
that of a NaN is not.
-/

namespace SensorRelay

/-- The whole number nearest to a quotient; of two that are equally near, the even one. -/
def roundQuotient (numerator denominator : Nat) : Nat :=
  let whole := numerator / denominator
  let rest := numerator % denominator
  if 2 * rest < denominator then whole
  else if denominator < 2 * rest then whole + 1
  else if whole % 2 = 0 then whole else whole + 1

namespace Binary64

/-- The pattern of the value nearest to a quotient, infinity when the nearest lies beyond the
largest finite value. A mantissa that rounds up to `2 ^ 53` carries into the exponent. -/
def nearestPattern (numerator denominator : Nat) : Nat :=
  let scaled := numerator * one
  let shift := (scaled / denominator).log2 - 52
  min (shift * 2 ^ 52 + roundQuotient scaled (denominator * 2 ^ shift)) infinityPattern

/-- Beyond this many digits before the point a number is larger than every finite value. -/
def mostDigits : Int := 310

/-- With this many zeros after the point a number is nearer to zero than to the least value. -/
def leastDigits : Int := -330

/-- The pattern of the value nearest to `coefficient * 10 ^ exponent`. Numbers too large or too
small for any finite value are told by their number of digits, so that no huge power is formed. -/
def nearestDecimal (coefficient : Nat) (exponent : Int) : Nat :=
  let digits : Int := (Numeral.ofNat coefficient).length + exponent
  if coefficient = 0 ∨ digits < leastDigits then 0
  else if mostDigits < digits then infinityPattern
  else if 0 ≤ exponent then nearestPattern (coefficient * 10 ^ exponent.toNat) 1
  else nearestPattern coefficient (10 ^ (-exponent).toNat)

def nearestNat (n : Nat) : Nat := nearestPattern n 1

/-- The pattern nearest to the product of two finite values. -/
def timesPattern (x y : Nat) : Nat := nearestPattern (unitsOf x * unitsOf y) (one * one)

/-- The pattern nearest to the quotient of two finite values, the second not zero. -/
def overPattern (x y : Nat) : Nat := nearestPattern (unitsOf x) (unitsOf y)

/-- The size of a finite value in hundredths, rounded. -/
def hundredths (x : Binary64) : Nat := roundQuotient (x.units * 100) one

/-- A number of hundredths with a point before its last two digits. -/
def hundredthsText (n : Nat) : List Char :=
  Numeral.ofNat (n / 100) ++ '.' :: Numeral.padded 2 (n % 100)

def fixed (x : Binary64) : List Char :=
  if x.isNaN then ['N', 'a', 'N']
  else
    let size := if x.isInfinite then ['i', 'n', 'f'] else hundredthsText x.hundredths
    if x.isNegative then '-' :: size else size

end Binary64

end SensorRelay
