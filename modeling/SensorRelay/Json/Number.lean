import SensorRelay.Binary64.Rounding
import SensorRelay.Json.Text

/-! # Numbers in JSON

Digits are gathered while the number they make fits into 64 bits; digits after that only move the
point. The number is then scaled by a power of ten with one rounded multiplication or division, so
a long literal may miss the nearest value in its last bits.
-/

namespace SensorRelay.Json

/-- A number as it is written: whole and not negative, whole and negative, or any other. -/
inductive Number
  | natural (n : Nat)
  | negative (n : Nat)
  | real (x : Binary64)
deriving DecidableEq, Repr

def maxSignificand : Nat := 2 ^ 64 - 1

/-- Adds digits to a number while it fits into 64 bits, and tells how many were added. -/
def gather (significand : Nat) : List Char → Nat × Nat
  | [] => (significand, 0)
  | c :: rest =>
    let next := significand * 10 + (c.toNat - 48)
    if maxSignificand < next then (significand, 0)
    else
      let (total, taken) := gather next rest
      (total, taken + 1)

/-- The largest power of ten that is scaled by at once. -/
def largestPower : Nat := 308

def powerOfTen (n : Nat) : Nat := Binary64.nearestNat (10 ^ n)

/-- Scales a pattern by a power of ten, or fails when the result would be infinite. -/
def scale (pattern : Nat) (exponent : Int) : Except Fault Nat :=
  if pattern = 0 then .ok 0
  else if 0 ≤ exponent then
    let product := Binary64.timesPattern pattern (powerOfTen exponent.toNat)
    if (largestPower : Int) < exponent ∨ product = Binary64.infinityPattern then .error .malformed
    else .ok product
  else if exponent < -(largestPower : Int) then
    scale (Binary64.overPattern pattern (powerOfTen largestPower)) (exponent + largestPower)
  else .ok (Binary64.overPattern pattern (powerOfTen exponent.natAbs))
termination_by (-exponent).toNat
decreasing_by simp only [largestPower] at *; omega

/-- A number with a point or an exponent. -/
def real (negative : Bool) (significand : Nat) (exponent : Int) : Except Fault Number := do
  let pattern ← scale (Binary64.nearestNat significand) exponent
  return .real (Binary64.ofPattern negative pattern)

def maxExponent : Nat := 2 ^ 31 - 1

/-- An exponent, after its letter: a sign and at least one digit. -/
def scanExponent (ahead : List Char) : Except Fault (Int × List Char) :=
  let (negative, digits) := match ahead with
    | '+' :: rest => (false, rest)
    | '-' :: rest => (true, rest)
    | rest => (false, rest)
  match digits with
  | [] => .error .unfinished
  | c :: _ =>
    if Numeral.isDigit c then
      let size := Numeral.valueFrom 0 (digits.takeWhile Numeral.isDigit)
      .ok (if negative then -size else size, digits.dropWhile Numeral.isDigit)
    else .error .malformed

/-- What follows the digits of a number with a point or an exponent. -/
def scanScale (negative : Bool) (significand : Nat) (exponent : Int) (ahead : List Char) :
    Except Fault (Number × List Char) :=
  match ahead with
  | c :: rest =>
    if c = 'e' ∨ c = 'E' then do
      let (size, rest) ← scanExponent rest
      if size.natAbs ≤ maxExponent then
        return (← real negative significand (exponent + size), rest)
      else if significand ≠ 0 ∧ 0 < size then .error .malformed
      else return (.real (Binary64.ofPattern negative 0), rest)
    else do return (← real negative significand exponent, ahead)
  | [] => do return (← real negative significand exponent, ahead)

/-- The digits after a point; there must be one. -/
def scanFraction (negative : Bool) (significand : Nat) (exponent : Int) (ahead : List Char) :
    Except Fault (Number × List Char) :=
  let digits := ahead.takeWhile Numeral.isDigit
  let rest := ahead.dropWhile Numeral.isDigit
  if digits.isEmpty then
    if rest.isEmpty then .error .unfinished else .error .malformed
  else
    let (total, taken) := gather significand digits
    scanScale negative total (exponent - taken) rest

/-- A number without a point or an exponent, from its digits. -/
def whole (negative : Bool) (digits : List Char) : Except Fault Number :=
  let (significand, taken) := gather 0 digits
  if taken < digits.length then real negative significand (digits.length - taken)
  else if !negative then .ok (.natural significand)
  else if 0 < significand ∧ significand ≤ 2 ^ 63 then .ok (.negative significand)
  else .ok (.real (Binary64.ofPattern true (Binary64.nearestNat significand)))

/-- A number without its sign: no leading zero, an optional fraction, an optional exponent. -/
def scanUnsigned (negative : Bool) (ahead : List Char) : Except Fault (Number × List Char) :=
  let digits := ahead.takeWhile Numeral.isDigit
  let rest := ahead.dropWhile Numeral.isDigit
  match digits with
  | [] => if rest.isEmpty then .error .unfinished else .error .malformed
  | '0' :: _ :: _ => .error .malformed
  | _ =>
    let (significand, taken) := gather 0 digits
    let exponent : Int := digits.length - taken
    match rest with
    | '.' :: fraction => scanFraction negative significand exponent fraction
    | c :: _ =>
      if c = 'e' ∨ c = 'E' then scanScale negative significand exponent rest
      else do return (← whole negative digits, rest)
    | [] => do return (← whole negative digits, rest)

/-- A number that is there, read from its first character on. -/
def scanNumber : List Char → Except Fault (Number × List Char)
  | '-' :: ahead => scanUnsigned true ahead
  | ahead => scanUnsigned false ahead

/-- Fails where a number was asked for and something else is found: a whole value of another kind
is mistyped, anything else breaks the grammar. -/
def scanMistyped {α : Type} : List Char → Except Fault α
  | [] => .error .unfinished
  | 'n' :: ahead => scanWord ['u', 'l', 'l'] ahead >>= fun _ => .error .mistyped
  | 't' :: ahead => scanWord ['r', 'u', 'e'] ahead >>= fun _ => .error .mistyped
  | 'f' :: ahead => scanWord ['a', 'l', 's', 'e'] ahead >>= fun _ => .error .mistyped
  | '"' :: ahead => scanString true ahead >>= fun _ => .error .mistyped
  | '[' :: _ => .error .mistyped
  | '\x7b' :: _ => .error .mistyped
  | c :: ahead =>
    if c = '-' ∨ Numeral.isDigit c then
      scanNumber (c :: ahead) >>= fun _ => .error .mistyped
    else .error .malformed

def expectNumber (ahead : List Char) : Except Fault (Number × List Char) :=
  match skipBlanks ahead with
  | [] => .error .unfinished
  | c :: rest =>
    if c = '-' ∨ Numeral.isDigit c then scanNumber (c :: rest) else scanMistyped (c :: rest)

end SensorRelay.Json
