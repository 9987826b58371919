import SensorRelay.Binary64.Rounding

/-! # The fewest digits that read back

A finite value is written with the fewest digits whose nearest value it is, and of those with the
digits nearest to it. Numbers from 10⁻⁵ up to 10¹⁶ are written with a point in its place, all
others with one digit before the point and an exponent.
-/

namespace SensorRelay.Binary64

/-- How many places the first digit of a positive quotient stands after the point. -/
def placesAfterPoint (numerator denominator : Nat) : Nat :=
  if numerator = 0 ∨ denominator ≤ numerator then 0
  else placesAfterPoint (numerator * 10) denominator + 1
termination_by denominator - numerator

/-- The power of ten of the first digit of a positive quotient. -/
def leadingPower (numerator denominator : Nat) : Int :=
  if denominator ≤ numerator then (Numeral.ofNat (numerator / denominator)).length - 1
  else -placesAfterPoint numerator denominator

/-- A decimal number `coefficient * 10 ^ exponent`. -/
structure Decimal where
  coefficient : Nat
  exponent : Int
deriving DecidableEq, Repr

/-- The decimal with exponent `exponent` nearest to a value among its two neighbours there, if one
of them reads back. -/
def onGrid? (pattern : Nat) (exponent : Int) : Option Decimal :=
  let numerator := unitsOf pattern * 10 ^ (-exponent).toNat
  let denominator := one * 10 ^ exponent.toNat
  let below := numerator / denominator
  let nearer := roundQuotient numerator denominator
  let farther := if nearer = below then below + 1 else below
  let readsBack (coefficient : Nat) : Bool := nearestDecimal coefficient exponent == pattern
  if readsBack nearer then some ⟨nearer, exponent⟩
  else if readsBack farther then some ⟨farther, exponent⟩
  else none

/-- Seventeen digits tell every two values apart. -/
def mostPrecise : Nat := 17

/-- The shortest decimal that reads back as the positive finite value with a pattern. -/
def shortest (pattern : Nat) : Decimal :=
  let power := leadingPower (unitsOf pattern) one
  let grids := (List.range mostPrecise).map fun (place : Nat) => power - place
  (grids.findSome? (onGrid? pattern)).getD ⟨unitsOf pattern, -1074⟩

/-- The digits of a decimal without the zeros at their end, and the power of ten of the first. -/
def Decimal.digits (d : Decimal) : List Char × Int :=
  let all := Numeral.ofNat d.coefficient
  let kept := (all.reverse.dropWhile (· == '0')).reverse
  (kept, d.exponent + all.length - 1)

/-- The lowest power of ten that is written with a point in its place. -/
def lowestPositional : Int := -5

/-- The lowest power of ten above those written with a point in its place. -/
def lowestScientific : Int := 16

/-- Digits whose first stands for a power of ten, with the point in its place. -/
def positional (digits : List Char) (power : Int) : List Char :=
  if power < 0 then
    '0' :: '.' :: List.replicate (-power - 1).toNat '0' ++ digits
  else
    let whole := power.toNat + 1
    let fraction := digits.drop whole
    digits.take whole ++ List.replicate (whole - digits.length) '0' ++
      '.' :: (if fraction.isEmpty then ['0'] else fraction)

/-- Digits with a point after the first and an exponent that always has its sign. -/
def scientific (digits : List Char) (power : Int) : List Char :=
  let mantissa := match digits with
    | [] => []
    | [c] => [c]
    | c :: rest => c :: '.' :: rest
  mantissa ++ 'e' :: (if power < 0 then '-' else '+') :: Numeral.ofNat power.natAbs

def shortestSize (pattern : Nat) : List Char :=
  if pattern = 0 then ['0', '.', '0']
  else
    let (digits, power) := (shortest pattern).digits
    if lowestPositional ≤ power ∧ power < lowestScientific then positional digits power
    else scientific digits power

def shortestText (x : Binary64) : List Char :=
  if x.isNegative then '-' :: shortestSize x.pattern else shortestSize x.pattern

end SensorRelay.Binary64
