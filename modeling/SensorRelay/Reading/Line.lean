import SensorRelay.Binary64.Literal
import SensorRelay.Reading.Basic
import SensorRelay.Text.Blank

/-! # Lines of text

A reading is written as `id,value,timestamp` with two decimals. A line is read leniently: line
ends after it and blanks around its fields do not count, and the value may be any literal. The
first field that cannot be read is the one reported.
-/

namespace SensorRelay.Line

/-- The line of a reading, without a line end. -/
def chars (r : Reading) : List Char :=
  Numeral.ofNat r.id.toNat ++ ',' :: r.value.fixed ++ ',' :: Numeral.ofInt r.timestamp.toInt

def format (r : Reading) : String := String.ofList (chars r)

def isLineEnd (c : Char) : Bool := c == '\r' || c == '\n'

/-- The largest id. -/
def maxId : Nat := 2 ^ 16 - 1

/-- The latest timestamp; the earliest is one second further from zero. -/
def maxTimestamp : Nat := 2 ^ 63 - 1

def readId (field : List Char) : Except String UInt16 :=
  match Numeral.readNat maxId (Text.trim field) with
  | .ok n => .ok (UInt16.ofNat n)
  | .error fault => .error s!"invalid id: {fault.message}"

def readValue (field : List Char) : Except String Binary64 :=
  match Binary64.readLiteral (Text.trim field) with
  | .ok value => .ok value
  | .error fault => .error s!"invalid value: {fault.message}"

def readTimestamp (field : List Char) : Except String Int64 :=
  match Numeral.readInt (maxTimestamp + 1) maxTimestamp (Text.trim field) with
  | .ok n => .ok (Int64.ofInt n)
  | .error fault => .error s!"invalid timestamp: {fault.message}"

/-- Reads the fields of a line, or says what is wrong with the first bad one. -/
def readFields : List (List Char) → Except String Reading
  | [id, value, timestamp] => do
    let id ← readId id
    let value ← readValue value
    let timestamp ← readTimestamp timestamp
    return ⟨id, value, timestamp⟩
  | fields =>
    let found := Numeral.textOfNat fields.length
    .error s!"expected 3 fields, found {found}"

/-- Reads a line, with or without line ends after it. -/
def parse (line : String) : Except ReadingFault Reading :=
  let content := Text.dropEndWhile isLineEnd line.toList
  match readFields (Text.pieces ',' content) with
  | .ok reading => .ok reading
  | .error reason => .error (.malformed (String.ofList content) reason)

end SensorRelay.Line
