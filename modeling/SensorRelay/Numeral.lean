/-! # Whole numbers in decimal

Numbers are written with the fewest digits, and read within a range: a sign is optional, leading
zeros count for nothing, and the first character that spoils the number decides what is wrong.
-/

namespace SensorRelay.Numeral

-- A power of numbers and a sum of them mean the same whatever else a module imports.
@[default_instance 20000]
instance (priority := 20000) instPow : Pow Nat Nat := instPowNat

instance (priority := 20000) instZero : Zero Nat := Zero.ofOfNat0

/-- What an ASCII decimal digit stands for. -/
def digit? (c : Char) : Option Nat :=
  if '0' ≤ c && c ≤ '9' then some (c.toNat - 48) else none

def isDigit (c : Char) : Bool := (digit? c).isSome

/-- The decimal digits of a number, with no leading zero but that of zero itself. -/
def ofNat (n : Nat) : List Char := Nat.toDigits 10 n

/-- The decimal digits of a number, after a minus sign when it is negative. -/
def ofInt (n : Int) : List Char :=
  if n < 0 then '-' :: ofNat n.natAbs else ofNat n.natAbs

def textOfNat (n : Nat) : String := String.ofList (ofNat n)

def textOfInt (n : Int) : String := String.ofList (ofInt n)

/-- The digits of a number, with zeros before them up to the given width. -/
def padded (width n : Nat) : List Char :=
  List.replicate (width - (ofNat n).length) '0' ++ ofNat n

/-- The number that a run of digits stands for, going on from `start`. -/
def valueFrom (start : Nat) (digits : List Char) : Nat :=
  digits.foldl (fun total c => total * 10 + (c.toNat - 48)) start

/-- Why a text is no number in the range asked for. -/
inductive Fault
  | empty
  | invalidDigit
  | tooLarge
  | tooSmall
deriving DecidableEq, Repr

def Fault.message : Fault → String
  | .empty => "cannot parse integer from empty string"
  | .invalidDigit => "invalid digit found in string"
  | .tooLarge => "number too large to fit in target type"
  | .tooSmall => "number too small to fit in target type"

/-- Reads digits from the left onto `total`. The number may not pass `bound` on the way; `beyond`
names that fault. -/
def readDigits (bound : Nat) (beyond : Fault) : Nat → List Char → Except Fault Nat
  | total, [] => .ok total
  | total, c :: rest =>
    match digit? c with
    | none => .error .invalidDigit
    | some d =>
      if bound < total * 10 + d then .error beyond
      else readDigits bound beyond (total * 10 + d) rest

/-- A sign alone is no number. -/
def readMagnitude (bound : Nat) (beyond : Fault) (digits : List Char) : Except Fault Nat :=
  if digits.isEmpty then .error .invalidDigit else readDigits bound beyond 0 digits

/-- Reads a number without a minus sign, up to `bound`. -/
def readNat (bound : Nat) : List Char → Except Fault Nat
  | [] => .error .empty
  | '+' :: digits => readMagnitude bound .tooLarge digits
  | digits => readMagnitude bound .tooLarge digits

/-- Reads a number from `-low` to `high`. -/
def readInt (low high : Nat) : List Char → Except Fault Int
  | [] => .error .empty
  | '+' :: digits => (readMagnitude high .tooLarge digits).map Int.ofNat
  | '-' :: digits => (readMagnitude low .tooSmall digits).map fun n => -(n : Int)
  | digits => (readMagnitude high .tooLarge digits).map Int.ofNat

end SensorRelay.Numeral
