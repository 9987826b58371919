import SensorRelay.Device.Source
import SensorRelay.Reading.Basic
import SensorRelay.Reading.Record

/-! # Reading records from a source

Records are gathered from as many reads as the source needs. The first fault or the end of the
source ends the stream for good: nothing is read after it.
-/

namespace SensorRelay

structure RecordReader where
  source : Device.Source
  /-- Bytes of the readings given so far. -/
  offset : Nat := 0
  ended : Bool := false
deriving DecidableEq, Repr

namespace RecordReader

/-- Reads until a record is complete, the source has no more, or it fails. -/
def gather (source : Device.Source) (block : List UInt8) :
    Except String (List UInt8) × Device.Source :=
  if Record.size ≤ block.length then (.ok block, source)
  else
    match given : source.read (Record.size - block.length) with
    | (.failed text, rest) => (.error text, rest)
    | (.interrupted, rest) =>
      have := Device.Source.length_deliveries_of_interrupted (congrArg Prod.fst given)
      gather rest block
    | (.bytes [], rest) => (.ok block, rest)
    | (.bytes (byte :: more), rest) =>
      have := Device.Source.length_deliveries_read source (Record.size - block.length)
      have := Device.Source.length_read_le (congrArg Prod.fst given)
      gather rest (block ++ byte :: more)
termination_by source.deliveries.length + (Record.size - block.length)
decreasing_by
  · simp_all
  · simp_all; omega

/-- The next reading or fault, if the stream has not ended. -/
def next (r : RecordReader) : Option (Except ReadingFault Reading) × RecordReader :=
  if r.ended then (none, r)
  else
    match gather r.source [] with
    | (.error text, source) => (some (.error (.device text)), { r with source, ended := true })
    | (.ok [], source) => (none, { r with source, ended := true })
    | (.ok block, source) =>
      if block.length = Record.size then
        (some (.ok (Record.decode block)), { r with source, offset := r.offset + Record.size })
      else
        (some (.error (.truncated r.offset block.length Record.size)),
          { r with source, ended := true })

/-- The results of calls until `ends` of them have found the stream ended, each with the offset
after it. The number of calls is bounded by `calls`. -/
def replay : Nat → Nat → RecordReader → List (Option (Except ReadingFault Reading) × Nat)
  | 0, _, _ => []
  | _, 0, _ => []
  | calls + 1, ends + 1, r =>
    match r.next with
    | (none, r) => (none, r.offset) :: replay calls ends r
    | (some result, r) => (some result, r.offset) :: replay calls (ends + 1) r

def available (source : Device.Source) : Nat :=
  (source.deliveries.map fun
    | .bytes content => content.length
    | _ => 0).sum

/-- Everything that a stream still gives, in order. Each result but the last uses up a whole
record, so the bytes of the source bound their number. -/
def toList (r : RecordReader) : List (Except ReadingFault Reading) :=
  (replay (available r.source / Record.size + 2) 1 r).filterMap Prod.fst

end RecordReader

end SensorRelay
