import SensorRelay.Binary64.Rounding
import SensorRelay.Calendar
import SensorRelay.Numeral

/-! # Readings

A reading is one measurement of a sensor. The id zero is reserved: a reading that carries it marks
the end of a stream and is no measurement. Reading a device may fail, a stream may end inside a
record, and a line may be malformed.
-/

namespace SensorRelay

/-- One measurement: the sensor, the value, and the second at which it was taken. -/
structure Reading where
  id : UInt16
  value : Binary64
  timestamp : Int64
deriving DecidableEq, Repr, Inhabited

namespace Reading

/-- The id that no sensor has. -/
def endOfStreamId : UInt16 := 0

/-- The reading put on a queue to mark the end of a stream. -/
def endOfStream : Reading := ⟨endOfStreamId, ⟨0⟩, 0⟩

def isEndOfStream (r : Reading) : Bool := r.id == endOfStreamId

/-- The moment of a reading, if it lies in the years that can be shown. -/
def recordedAt? (r : Reading) : Option String := Calendar.rfc3339? r.timestamp.toInt

/-- A reading as people read it, with its moment where that can be shown. -/
def text (r : Reading) : String :=
  let id := Numeral.textOfNat r.id.toNat
  let value := String.ofList r.value.fixed
  let seconds := Numeral.textOfInt r.timestamp.toInt
  let plain := s!"id={id}, value={value}, ts={seconds}"
  match r.recordedAt? with
  | some moment => s!"{plain} ({moment})"
  | none => plain

/-- Equality of readings, in which values are compared as numbers. -/
def same (r s : Reading) : Bool :=
  r.id == s.id && r.value.sameNumber s.value && r.timestamp == s.timestamp

end Reading

/-- Why no reading could be read or written. -/
inductive ReadingFault
  | device (text : String)
  | truncated (offset length expected : Nat)
  | malformed (line reason : String)
deriving DecidableEq, Repr, Inhabited

namespace ReadingFault

def message : ReadingFault → String
  | .device text => s!"I/O error: {text}"
  | .truncated offset length expected =>
    let offset := Numeral.textOfNat offset
    let length := Numeral.textOfNat length
    let expected := Numeral.textOfNat expected
    s!"Truncated record at byte offset {offset}: got {length} of {expected} bytes"
  | .malformed line reason => s!"Malformed CSV line '{line}': {reason}"

/-- The messages of the faults that lie behind a fault, nearest first. -/
def causes : ReadingFault → List String
  | .device text => [text]
  | .truncated .. => []
  | .malformed .. => []

end ReadingFault

end SensorRelay
