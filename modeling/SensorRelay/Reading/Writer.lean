import SensorRelay.Device.Writer
import SensorRelay.Reading.Basic
import SensorRelay.Reading.Line
import SensorRelay.Reading.Record
import SensorRelay.Relay.Consumer

/-! # Writing readings to a device

Readings are written as records, or as lines of text that are flushed one by one. Counts go up only
for what was written completely. Lines are also where readings end up that travel through a queue.
-/

namespace SensorRelay

/-- What is seen after a write: its result, how many have been complete, and how many bytes the
device has taken. -/
structure Progress where
  result : Except ReadingFault Unit
  count : Nat
  size : Nat

/-- Writes records to a device. -/
structure RecordWriter where
  device : Device.Writer
  written : Nat := 0
deriving DecidableEq, Repr

/-- A fault of a device as a fault of a reading. -/
def ReadingFault.ofDevice (result : Except String Unit) : Except ReadingFault Unit :=
  result.mapError .device

namespace RecordWriter

def write : RecordWriter → Reading → Except ReadingFault Unit × RecordWriter
  | ⟨device, written⟩, r =>
    match device.writeAll (Record.encode r) with
    | (.ok (), device) => (.ok (), ⟨device, written + 1⟩)
    | (.error text, device) => (.error (.device text), ⟨device, written⟩)

/-- Writes readings until one cannot be written. -/
def writeAll (w : RecordWriter) : List Reading → Except ReadingFault Unit × RecordWriter
  | [] => (.ok (), w)
  | r :: rest =>
    match w.write r with
    | (.ok (), w) => writeAll w rest
    | (.error fault, w) => (.error fault, w)

/-- Writes a reading and notes how far that went. -/
def writeNoted (r : Reading) : StateM RecordWriter Progress := fun w =>
  let (result, w) := w.write r
  (⟨result, w.written, w.device.accepted.size⟩, w)

/-- Writes every reading, whatever became of those before it. -/
def writeEach (w : RecordWriter) (readings : List Reading) : List Progress × RecordWriter :=
  readings.mapM writeNoted w

@[simp] theorem writeEach_nil (w : RecordWriter) : w.writeEach [] = ([], w) := rfl

theorem writeEach_cons (w : RecordWriter) (r : Reading) (rest : List Reading) :
    w.writeEach (r :: rest) =
      let first := writeNoted r w
      let later := first.2.writeEach rest
      (first.1 :: later.1, later.2) := by
  simp only [writeEach, List.mapM_cons]
  rfl

/-- Flushes the device after the last reading. -/
def finish (w : RecordWriter) : Except ReadingFault Unit :=
  ReadingFault.ofDevice w.device.flush.1

end RecordWriter

/-- Writes lines to a device. -/
structure LineSink where
  device : Device.Writer
  lines : Nat := 0
deriving DecidableEq, Repr

namespace LineSink

/-- The bytes of an ASCII text. -/
def bytes (text : List Char) : List UInt8 := text.map fun c => UInt8.ofNat c.toNat

/-- Writes a line and its line end, and flushes the device. The line counts when all of this
succeeds. -/
def write : LineSink → Reading → Except ReadingFault Unit × LineSink
  | ⟨device, lines⟩, r =>
    match device.writeAll (bytes (Line.chars r)) with
    | (.error text, device) => (.error (.device text), ⟨device, lines⟩)
    | (.ok (), device) =>
      match device.writeAll (bytes ['\n']) with
      | (.error text, device) => (.error (.device text), ⟨device, lines⟩)
      | (.ok (), device) =>
        match device.flush with
        | (.error text, device) => (.error (.device text), ⟨device, lines⟩)
        | (.ok (), device) => (.ok (), ⟨device, lines + 1⟩)

/-- Writes a reading and notes how far that went. -/
def writeNoted (r : Reading) : StateM LineSink Progress := fun sink =>
  let (result, sink) := sink.write r
  (⟨result, sink.lines, sink.device.accepted.size⟩, sink)

/-- Writes every reading, whatever became of those before it. -/
def writeEach (sink : LineSink) (readings : List Reading) : List Progress × LineSink :=
  readings.mapM writeNoted sink

@[simp] theorem writeEach_nil (sink : LineSink) : sink.writeEach [] = ([], sink) := rfl

theorem writeEach_cons (sink : LineSink) (r : Reading) (rest : List Reading) :
    sink.writeEach (r :: rest) =
      let first := writeNoted r sink
      let later := first.2.writeEach rest
      (first.1 :: later.1, later.2) := by
  simp only [writeEach, List.mapM_cons]
  rfl

/-- The bytes taken so far. -/
def content (sink : LineSink) : List UInt8 := sink.device.accepted.toList

end LineSink

instance : QueueItem Reading where
  marker := .endOfStream
  inspect r := .seen r.isEndOfStream r
  text := Reading.text
  bytes := 24

/-- Writes a reading as a line; a fault of the device is the reason to reject it. -/
def LineSink.judge (sink : LineSink) (r : Reading) : Verdict × LineSink :=
  match sink.write r with
  | (.ok (), sink) => (.taken, sink)
  | (.error fault, sink) => (.rejected fault.message, sink)

instance : Sink LineSink Reading := ⟨LineSink.judge⟩

end SensorRelay
