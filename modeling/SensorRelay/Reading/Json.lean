import SensorRelay.Binary64.Shortest
import SensorRelay.Json.Skip
import SensorRelay.Reading.Basic

/-! # Readings in JSON

A reading is written as an object with the members `id`, `value` and `timestamp` in this order; a
value that is no number becomes `null`. An object is read with its members in any order and with
members that are not known passed over; an array of the three values is read as well.
-/

namespace SensorRelay.Reading

/-- The JSON text of a reading. -/
def json (r : Reading) : String :=
  let id := Numeral.textOfNat r.id.toNat
  let value := if r.value.isFinite then String.ofList r.value.shortestText else "null"
  let seconds := Numeral.textOfInt r.timestamp.toInt
  s!"\x7b\"id\":{id},\"value\":{value},\"timestamp\":{seconds}\x7d"

open Json (Fault Number)

def idOfNumber : Number → Except Fault UInt16
  | .natural n => if n < 2 ^ 16 then .ok (UInt16.ofNat n) else .error .mistyped
  | _ => .error .mistyped

def valueOfNumber : Number → Binary64
  | .natural n => .ofPattern false (Binary64.nearestNat n)
  | .negative n => .ofPattern true (Binary64.nearestNat n)
  | .real x => x

def timestampOfNumber : Number → Except Fault Int64
  | .natural n => if n < 2 ^ 63 then .ok (Int64.ofInt n) else .error .mistyped
  | .negative n => .ok (Int64.ofInt (-n))
  | .real _ => .error .mistyped

/-- The members of a reading that have been read so far. -/
structure Members where
  id : Option UInt16
  value : Option Binary64
  timestamp : Option Int64
deriving DecidableEq, Repr

/-- A reading has all three members. -/
def Members.reading (m : Members) : Except Fault Reading :=
  match m.id, m.value, m.timestamp with
  | some id, some value, some timestamp => .ok ⟨id, value, timestamp⟩
  | _, _, _ => .error .mistyped

/-- Reads a number and converts it. -/
def readNumber {α : Type} (convert : Number → Except Fault α) (ahead : List Char) :
    Except Fault (α × List Char) := do
  let (number, rest) ← Json.expectNumber ahead
  return (← convert number, rest)

/-- The characters after the colon that follows a key. -/
def afterColon (ahead : List Char) : Except Fault (List Char) :=
  match Json.skipBlanks ahead with
  | ':' :: rest => .ok rest
  | [] => .error .unfinished
  | _ => .error .malformed

/-- Reads one member, from its key on. A key that occurs twice is refused before its value is
looked at. -/
def readMember (m : Members) (key : String) (ahead : List Char) :
    Except Fault (Members × List Char) := do
  match key with
  | "id" =>
    if m.id.isSome then .error .mistyped
    let (id, rest) ← readNumber idOfNumber (← afterColon ahead)
    return ({ m with id := some id }, rest)
  | "value" =>
    if m.value.isSome then .error .mistyped
    let (value, rest) ← readNumber (fun n => .ok (valueOfNumber n)) (← afterColon ahead)
    return ({ m with value := some value }, rest)
  | "timestamp" =>
    if m.timestamp.isSome then .error .mistyped
    let (timestamp, rest) ← readNumber timestampOfNumber (← afterColon ahead)
    return ({ m with timestamp := some timestamp }, rest)
  | _ => return (m, ← Json.skipValue (← afterColon ahead))

/-- The key that comes next in an object, or nothing at its end. -/
def nextKey (first : Bool) (ahead : List Char) : Except Fault (Option String × List Char) :=
  let key : List Char → Except Fault (Option String × List Char)
    | '"' :: rest => (Json.scanString true rest).map fun (text, left) =>
      (some (String.ofList text), left)
    | [] => .error .unfinished
    | _ => .error .malformed
  match Json.skipBlanks ahead with
  | [] => .error .unfinished
  | '\x7d' :: rest => .ok (none, rest)
  | c :: rest =>
    if first then key (c :: rest)
    else if c = ',' then key (Json.skipBlanks rest)
    else .error .malformed

/-- Reads the members of an object after its opening brace. Each takes up at least one character,
so the characters ahead bound their number. -/
def readMembers : Nat → Members → Bool → List Char → Except Fault (Reading × List Char)
  | 0, _, _, _ => .error .unfinished
  | rounds + 1, m, first, ahead => do
    match ← nextKey first ahead with
    | (none, rest) => return (← m.reading, rest)
    | (some key, rest) =>
      let (m, rest) ← readMember m key rest
      readMembers rounds m false rest

/-- Reads the next element of an array of three. -/
def readElement {α : Type} (first : Bool) (convert : Number → Except Fault α)
    (ahead : List Char) : Except Fault (α × List Char) :=
  let element (ahead : List Char) : Except Fault (α × List Char) := readNumber convert ahead
  match Json.skipBlanks ahead with
  | [] => .error .unfinished
  | ']' :: _ => .error .mistyped
  | c :: rest =>
    if first then element (c :: rest)
    else if c = ',' then
      match Json.skipBlanks rest with
      | ']' :: _ => .error .malformed
      | rest => element rest
    else .error .malformed

/-- Reads the three values of an array after its opening bracket. -/
def readElements (ahead : List Char) : Except Fault (Reading × List Char) := do
  let (id, rest) ← readElement true idOfNumber ahead
  let (value, rest) ← readElement false (fun n => .ok (valueOfNumber n)) rest
  let (timestamp, rest) ← readElement false timestampOfNumber rest
  match Json.skipBlanks rest with
  | ']' :: rest => return (⟨id, value, timestamp⟩, rest)
  | [] => .error .unfinished
  | _ => .error .malformed

/-- Reads a JSON text that holds one reading and nothing else. -/
def ofJson (text : String) : Except Fault Reading := do
  let ahead := Json.skipBlanks text.toList
  let (reading, rest) ← match ahead with
    | '\x7b' :: rest => readMembers (rest.length + 1) ⟨none, none, none⟩ true rest
    | '[' :: rest => readElements rest
    | ahead => Json.scanMistyped ahead
  if (Json.skipBlanks rest).isEmpty then return reading else .error .malformed

end SensorRelay.Reading
