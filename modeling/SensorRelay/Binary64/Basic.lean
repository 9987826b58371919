import SensorRelay.Numeral

/-! # Binary floating-point values of 64 bits

A value is its pattern of bits, so every payload of a NaN is kept. Every finite value is a whole
number of units of 2⁻¹⁰⁷⁴, the least positive value; all arithmetic on values is exact arithmetic
on those units.
-/

namespace SensorRelay

/-- A value in the IEEE 754 format binary64. -/
structure Binary64 where
  bits : UInt64
deriving DecidableEq, Repr, Inhabited

namespace Binary64

/-- How many units make one. -/
def one : Nat := 2 ^ 1074

/-- The pattern of infinity. The patterns below it are finite, those above it are NaNs. -/
def infinityPattern : Nat := 2047 * 2 ^ 52

/-- Is the sign bit set? -/
def isNegative (x : Binary64) : Bool := 2 ^ 63 ≤ x.bits.toNat

/-- The pattern without its sign bit. -/
def pattern (x : Binary64) : Nat := x.bits.toNat % 2 ^ 63

def isNaN (x : Binary64) : Bool := infinityPattern < x.pattern

def isInfinite (x : Binary64) : Bool := x.pattern == infinityPattern

def isFinite (x : Binary64) : Bool := x.pattern < infinityPattern

/-- The size of the finite value with a pattern, in units. -/
def unitsOf (pattern : Nat) : Nat :=
  if pattern < 2 ^ 52 then pattern
  else (2 ^ 52 + pattern % 2 ^ 52) * 2 ^ (pattern / 2 ^ 52 - 1)

/-- The size of a finite value, in units. -/
def units (x : Binary64) : Nat := unitsOf x.pattern

/-- The value with a sign and a pattern below `2 ^ 63`. -/
def ofPattern (negative : Bool) (pattern : Nat) : Binary64 :=
  ⟨UInt64.ofNat (if negative then 2 ^ 63 + pattern else pattern)⟩

def infinity (negative : Bool) : Binary64 := ofPattern negative infinityPattern

/-- The quiet NaN without a payload. -/
def nan (negative : Bool) : Binary64 := ofPattern negative (infinityPattern + 2 ^ 51)

/-- Equality as numbers: a NaN differs from everything, and the two zeros are equal. -/
def sameNumber (x y : Binary64) : Bool :=
  !x.isNaN && !y.isNaN && (x == y || (x.pattern == 0 && y.pattern == 0))

end Binary64

end SensorRelay
