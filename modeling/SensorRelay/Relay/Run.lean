import SensorRelay.Files.Handle
import SensorRelay.Log.Logger
import SensorRelay.Reading.Reader
import SensorRelay.Relay.Threads

/-! # Runs of a relay

A run opens its input and its output and lets its threads work. The files follow the threads: what a
consumer writes goes to the output and what is logged to the log, and the producer finds in the
input what is there by then. So it shows if one of these files is another one.

Of the threads that can go on, one that has waited least goes first, and before consumers the
producer.
-/

namespace SensorRelay.Relay

structure Run where
  settings : Settings
  world : World LineSink Reading
  files : Files.System
  input : Files.Handle
  output : Files.Handle
  channel : Option Log.Channel
  reader : RecordReader := { source := ⟨[], none⟩ }
  /-- The bytes that have been read from the input, but not taken yet. -/
  ahead : Nat := 0
  /-- The bytes of the sink that are in the output. -/
  written : Nat := 0
  /-- The entries of the journal that are in the log. -/
  logged : Nat := 0
  /-- For how many nanoseconds each thread has worked or waited. -/
  times : List Nat

def drawn : Except ReadingFault Reading → Drawn Reading
  | .ok reading => .item reading
  | .error fault => .failure fault.message

def bufferSize : Nat := 8192

namespace Run

def followSink (run : Run) : Run :=
  let accepted := run.world.sink.value.device.accepted
  let bytes := (accepted.extract run.written accepted.size).toList
  let (output, files) := run.output.write run.files bytes
  { run with output, files, written := accepted.size }

def followJournal (run : Run) : Run :=
  let journal := run.world.journal
  let entries := (journal.extract run.logged journal.size).toList
  let records := entries.map fun (thread, entry) => entry.record thread
  match run.channel with
  | none => { run with logged := journal.size }
  | some channel =>
    let (channel, files) := channel.log run.files records
    { run with channel := some channel, files, logged := journal.size }

def follow (run : Run) : Run := run.followSink.followJournal

def logPlace? (run : Run) : Option Files.Place := run.channel.bind (·.place? run.files)

/-- Do the output and the log go to one file? -/
def isShared (run : Run) : Bool := run.logPlace? == some run.output.place

def refill (run : Run) : Run :=
  let run := run.follow
  let deliver (delivery : Device.Delivery) : RecordReader :=
    let source := run.reader.source
    { run.reader with source := { source with deliveries := source.deliveries ++ [delivery] } }
  match run.input.read run.files bufferSize with
  | .error fault => { run with reader := deliver (.failure fault.message) }
  | .ok ([], _) => run
  | .ok (bytes, input) =>
    { run with reader := deliver (.bytes bytes), input, ahead := run.ahead + bytes.length }

/-- Reads on in the input if less than a record is at hand. -/
def stock (run : Run) : Run := if run.ahead < Record.size then run.refill else run

/-- Takes the next element from the reader, if there is one, and gives it to the producer. -/
def pass (run : Run) (index : Nat) : Run :=
  let (result, reader) := run.reader.next
  let run := { run with reader, ahead := run.ahead - Record.size }
  match result with
  | none => run
  | some result => { run with world := run.world.supply index (drawn result) }

/-- Gives the producer an element to draw, if it wants one and there is one. -/
def supply (run : Run) (index : Nat) : Run :=
  if run.reader.ended || !run.world.isDrawing index then run else run.stock.pass index

/-- The place and the time of the first of the threads that can go on and have the least time.
Places count from `place` on. -/
def firstOf (place : Nat) : List (Thread Reading) → List Nat → Option (Nat × Nat)
  | thread :: threads, time :: times =>
    if thread.canStep && time == 0 then some (place, time)
    else
      match firstOf (place + 1) threads times with
      | some (other, least) =>
        if thread.canStep && time ≤ least then some (place, time) else some (other, least)
      | none => if thread.canStep then some (place, time) else none
  | _, _ => none

def next? (run : Run) : Option Nat := (firstOf 0 run.world.threads run.times).map Prod.fst

/-- How long a thread pauses after a step: a producer after an item that it has inserted or that was
refused, and a consumer after one that it has delivered or that was rejected. -/
def pause (settings : Settings) (before after : Thread Reading) : Nat :=
  match before.task, after.task with
  | .producer p, .producer next =>
    match p.phase, before.standing, next.phase, after.standing with
    -- An insertion is over once it has been notified of; one that is refused notifies nobody.
    | .drawing, .owing _, _, _ | .inserting _, _, .drawing, .ready =>
      settings.produceDelay.nanoseconds
    | _, _, _, _ => 0
  | .consumer c, .consumer next =>
    match c.phase, next.phase with
    | .delivering _, .removing _ => settings.consumeDelay.nanoseconds
    | _, _ => 0
  | _, _ => 0

/-- The times after a step at a time: who is woken by it has waited until then. -/
def waited (now : Nat) : List (Thread Reading) → List (Thread Reading) → List Nat → List Nat
  | old :: before, new :: after, time :: times =>
    let isWoken := old.standing = .parked ∧ new.standing = .woken
    (if isWoken then max time now else time) :: waited now before after times
  | _, _, times => times

def advance (run : Run) (index : Nat) : Run :=
  let run := run.supply index
  let before := run.world.threads
  let now := run.times.getD index 0
  let run := { run with world := run.world.step index 0 }
  let times := if now = 0 then run.times else waited now before run.world.threads run.times
  let pause := match before[index]?, run.world.threads[index]? with
    | some old, some new => pause run.settings old new
    | _, _ => 0
  { run with times := if pause = 0 then times else times.set index (now + pause) }

/-- Lets threads take steps, until none can or there have been so many. -/
def settle (isShared : Bool) : Nat → Run → Run
  | 0, run => run
  | steps + 1, run =>
    match run.next? with
    | none => run
    | some index =>
      let run := run.advance index
      settle isShared steps (if isShared then run.follow else run)

/-- Enough steps for all threads to end. An element takes the producer three steps and a consumer
three, and each consumer waits once at most and is woken. To an element of the input come as many
more as fit into a line of the log, if that is written into the input. -/
def steps (run : Run) (records : Nat) : Nat :=
  8 * (64 * (records + 1) + run.settings.consumers + 1)

def finish (run : Run) (records : Nat) : Except RelayFault RelayReport × Run :=
  let isShared := run.isShared
  let steps := run.steps records
  let run := run.settle isShared steps
  let (producer, world) := concludeProducer run.world
  let run := { run with world }.follow.settle isShared steps
  let (result, world) := concludeRun producer run.world
  (result, { run with world }.follow)

end Run

/-- The bytes that a directory is said to have. -/
def directorySize : Nat := 4096

def recordsOf : Files.Node → Nat
  | .directory => directorySize / Record.size
  | .file content => content.length / Record.size

def recordsAt (files : Files.System) (place : Files.Place) : Nat :=
  ((files.find? place).map recordsOf).getD 0

def startEntry (settings : Settings) (records : Nat) : Log.Entry :=
  let records := Numeral.textOfNat records
  let consumers := Numeral.textOfNat settings.consumers
  ⟨.info, .opening, s!"Reading {settings.input} ({records} records) into {settings.output} " ++
    s!"with {consumers} consumer(s), termination={settings.termination.name}"⟩

/-- A run on files that are open, before any thread has done anything. -/
def Run.start (settings : Settings) (files : Files.System) (input output : Files.Handle)
    (channel : Option Log.Channel) : Run :=
  let w := Relay.world settings [] { device := {} }
  let entry := startEntry settings (recordsAt files input.place)
  { settings, files, input, output, channel, times := w.threads.map fun _ => 0
    world := { w with journal := #[(mainName, entry)] } }

/-- Opens the files of a run. The output is emptied unless it is to be appended to, which happens
before the input is read. -/
def start? (settings : Settings) (files : Files.System) (channel : Option Log.Channel) :
    Except RelayFault Run :=
  match files.openInput settings.input with
  | .error fault => .error (.file "input" settings.input (.device fault.message))
  | .ok input =>
    match files.openOutput settings.output settings.append with
    | .error fault => .error (.file "output" settings.output (.device fault.message))
    | .ok (output, files) => .ok (.start settings files input output channel)

/-- What a run gives, what was logged, thread by thread, the files after it, and the log. -/
structure Outcome where
  result : Except RelayFault RelayReport
  journal : List (String × Log.Entry)
  files : Files.System
  channel : Option Log.Channel

def run (settings : Settings) (files : Files.System) (channel : Option Log.Channel) : Outcome :=
  match start? settings files channel with
  | .error fault => ⟨.error fault, [], files, channel⟩
  | .ok run =>
    let (result, run) := run.finish (recordsAt run.files run.input.place)
    ⟨result, run.world.journal.toList, run.files, run.channel⟩

end SensorRelay.Relay
