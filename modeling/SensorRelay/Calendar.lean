import SensorRelay.Numeral

/-! # Moments on the civil calendar

A moment counts the seconds since the start of 1970 in UTC, without leap seconds. It is shown in
the proleptic Gregorian calendar, for the years from -262143 to 262142.
-/

namespace SensorRelay

/-- A date of the proleptic Gregorian calendar. -/
structure Date where
  year : Int
  month : Nat
  day : Nat
deriving DecidableEq, Repr

namespace Date

/-- Days from 1 March of the year 0 to 1 January 1970. -/
def daysBeforeEpoch : Int := 719468

def daysPerEra : Int := 146097

/-- The date that lies a number of days after 1 January 1970. Years are counted from 1 March, so
that a leap day is the last day of its year; an era is 400 such years. -/
def ofDays (days : Int) : Date :=
  let shifted := days + daysBeforeEpoch
  let era := shifted / daysPerEra
  let dayOfEra := (shifted % daysPerEra).toNat
  let yearOfEra := (dayOfEra - dayOfEra / 1460 + dayOfEra / 36524 - dayOfEra / 146096) / 365
  let dayOfYear := dayOfEra - (365 * yearOfEra + yearOfEra / 4 - yearOfEra / 100)
  let marchMonth := (5 * dayOfYear + 2) / 153
  let day := dayOfYear - (153 * marchMonth + 2) / 5 + 1
  let month := if marchMonth < 10 then marchMonth + 3 else marchMonth - 9
  let year := (yearOfEra : Int) + era * 400
  ⟨if month ≤ 2 then year + 1 else year, month, day⟩

/-- Years from 0 to 9999 have four digits; all others have a sign and at least four digits. -/
def yearText (year : Int) : List Char :=
  if 0 ≤ year ∧ year ≤ 9999 then Numeral.padded 4 year.toNat
  else (if year < 0 then '-' else '+') :: Numeral.padded 4 year.natAbs

end Date

namespace Calendar

def secondsPerDay : Int := 86400

def firstYear : Int := -262143

def lastYear : Int := 262142

/-- A moment in the form `2023-11-14T22:13:20+00:00`, if its year is in range. -/
def rfc3339? (seconds : Int) : Option String :=
  let date := Date.ofDays (seconds / secondsPerDay)
  let second := (seconds % secondsPerDay).toNat
  if firstYear ≤ date.year ∧ date.year ≤ lastYear then
    let two (n : Nat) : List Char := Numeral.padded 2 n
    some (String.ofList (
      Date.yearText date.year ++ '-' :: two date.month ++ '-' :: two date.day ++
      'T' :: two (second / 3600) ++ ':' :: two (second / 60 % 60) ++ ':' :: two (second % 60) ++
      ['+', '0', '0', ':', '0', '0']))
  else none

end Calendar

end SensorRelay
