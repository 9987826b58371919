import SensorRelay.Numeral

/-! # Spans of time

A span counts whole nanoseconds, up to the longest span whose seconds fit into 64 bits. Longer
spans are cut to that one.
-/

namespace SensorRelay

/-- A span of time. -/
structure Duration where
  nanoseconds : Nat
  le_longest : nanoseconds < 2 ^ 64 * 10 ^ 9
deriving DecidableEq

namespace Duration

/-- How many nanoseconds the longest span has. -/
def longest : Nat := 2 ^ 64 * 10 ^ 9 - 1

/-- A number of nanoseconds, cut to the longest span. -/
def ofNanoseconds (n : Nat) : Duration :=
  ⟨min n longest, Nat.lt_of_le_of_lt (Nat.min_le_right n longest) (by decide)⟩

def ofMilliseconds (n : Nat) : Duration := ofNanoseconds (n * 10 ^ 6)

def ofSeconds (seconds nanoseconds : Nat) : Duration :=
  ofNanoseconds (seconds * 10 ^ 9 + nanoseconds)

def zero : Duration := ofNanoseconds 0

instance : Inhabited Duration := ⟨zero⟩

def seconds (d : Duration) : Nat := d.nanoseconds / 10 ^ 9

/-- The nanoseconds beyond the whole seconds. -/
def subsecond (d : Duration) : Nat := d.nanoseconds % 10 ^ 9

def scale (d : Duration) (factor : Nat) : Duration := ofNanoseconds (d.nanoseconds * factor)

def shorter (d e : Duration) : Duration := if d.nanoseconds ≤ e.nanoseconds then d else e

/-- A quotient of nanoseconds as a decimal without zeros at its end. -/
def inUnits (nanoseconds places : Nat) : List Char :=
  let whole := Numeral.ofNat (nanoseconds / 10 ^ places)
  let fraction := nanoseconds % 10 ^ places
  if fraction = 0 then whole
  else
    let digits := Numeral.padded places fraction
    whole ++ '.' :: (digits.reverse.dropWhile (· == '0')).reverse

/-- A span in the largest unit of which it holds at least one. -/
def text (d : Duration) : String :=
  let n := d.nanoseconds
  String.ofList <|
    if 10 ^ 9 ≤ n then inUnits n 9 ++ ['s']
    else if 10 ^ 6 ≤ n then inUnits n 6 ++ ['m', 's']
    else if 10 ^ 3 ≤ n then inUnits n 3 ++ ['µ', 's']
    else inUnits n 0 ++ ['n', 's']

end Duration

end SensorRelay
