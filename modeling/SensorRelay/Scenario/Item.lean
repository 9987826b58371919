import SensorRelay.Reading.Writer

/-! # Readings with a fuse, and sinks with rules

A fuse makes the check for the end-of-stream marker panic: once, and at a check fixed in advance.
For some sensors a sink may panic or reject what it is given, and somebody else may call the queue
while it is at work. All other readings are written as lines.
-/

namespace SensorRelay.Scenario

/-- A reading, and how many checks it takes until one panics. -/
structure FusedReading where
  reading : Reading
  fuse : Option Nat := none
deriving DecidableEq, Repr

namespace FusedReading

/-- Checks for the marker. Each check burns the fuse down by one, and the last one panics. -/
def inspect (r : FusedReading) : Inspection FusedReading :=
  match r.fuse with
  | some 1 => .panicked
  | some (left + 2) => .seen r.reading.isEndOfStream { r with fuse := some (left + 1) }
  | _ => .seen r.reading.isEndOfStream r

instance : QueueItem FusedReading where
  marker := { reading := .endOfStream }
  inspect := inspect
  text r := r.reading.text
  bytes := QueueItem.bytes Reading + 8

end FusedReading

/-- The calls that are made during a write, the panics and the rejections, by the id of the
sensor. -/
structure RuledSink where
  lines : LineSink := { device := {} }
  calls : List (Nat × Call FusedReading) := []
  panics : List Nat := []
  rejections : List (Nat × String) := []

namespace RuledSink

def callsFor (sink : RuledSink) (item : FusedReading) : List (Call FusedReading) :=
  sink.calls.filterMap fun (id, call) =>
    if id = item.reading.id.toNat then some call else none

def write (sink : RuledSink) (item : FusedReading) : Verdict × RuledSink :=
  let id := item.reading.id.toNat
  if id ∈ sink.panics then (.panicked, sink)
  else
    match sink.rejections.lookup id with
    | some text => (.rejected text, sink)
    | none =>
      let (verdict, lines) := sink.lines.judge item.reading
      (verdict, { sink with lines })

instance : Sink RuledSink FusedReading := ⟨write⟩

end RuledSink

end SensorRelay.Scenario
