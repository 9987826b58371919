import SensorRelay.Reading.Writer
import SensorRelay.Relay.World
import SensorRelay.Settings.Basic

/-! # The threads of a run

A run starts a producer and some consumers around a new queue, and waits for all of them. Whatever
goes wrong, the queue is closed so that no consumer is left waiting, and it is destroyed in the end.
What each of them did makes up the report.
-/

namespace SensorRelay

/-- What a relay did, and how many items were still queued at its end. -/
structure RelayReport where
  producer : ProducerReport
  consumers : List ConsumerReport
  leftover : Nat
deriving DecidableEq, Repr

def ProducerReport.json (report : ProducerReport) : String :=
  Json.object
    [("inserted", Numeral.textOfNat report.inserted),
      ("dropped", Numeral.textOfNat report.dropped),
      ("source_errors", Numeral.textOfNat report.sourceErrors),
      ("markers", Numeral.textOfNat report.markers)]

def ConsumerReport.json (report : ConsumerReport) : String :=
  Json.object
    [("name", Json.quoted report.name),
      ("delivered", Numeral.textOfNat report.delivered),
      ("sink_failures", Numeral.textOfNat report.sinkFailures),
      ("remove_failures", Numeral.textOfNat report.removeFailures)]

namespace RelayReport

/-- All items that were delivered. -/
def delivered (report : RelayReport) : Nat := (report.consumers.map ConsumerReport.delivered).sum

/-- A report as a JSON object. -/
def json (report : RelayReport) : String :=
  Json.object
    [("producer", report.producer.json),
      ("consumers", Json.array (report.consumers.map ConsumerReport.json)),
      ("leftover", Numeral.textOfNat report.leftover)]

end RelayReport

namespace Relay

def producerName : String := "producer"

def consumerName (number : Nat) : String := s!"consumer-{Numeral.textOfNat number}"

def mainName : String := "main"

def entry (level : Log.Level) (message : String) : Log.Entry := ⟨level, .pipeline, message⟩

/-- The producer and the consumers around a new queue. -/
def world (settings : Settings) (source : List (Drawn Reading)) (sink : LineSink) :
    World LineSink Reading :=
  let producer : Producer Reading :=
    { source, termination := settings.termination, consumers := settings.consumers }
  let consumers := (List.range settings.consumers).map fun index =>
    let name := consumerName (index + 1)
    { name, task := .consumer (.start name settings.retry) }
  { queue := .empty, sink := ⟨sink, false⟩
    threads := { name := producerName, task := .producer producer } :: consumers }

/-- The report of the producer, or the fault that it ended with, and what is logged about it. A
producer that has not ended counts as one that panicked. -/
def joinProducer (w : World LineSink Reading) :
    Except RelayFault ProducerReport × List Log.Entry :=
  let ending : Option (Ending ProducerReport) := w.threads.findSome? fun thread =>
    match thread.task with
    | .producer p => p.ending?
    | _ => none
  match ending with
  | some (.finished report) => (.ok report, [])
  | some (.failed fault) =>
    (.error (.queue fault), [entry .error s!"Producer failed: {fault.message}"])
  | some .panicked | none => (.error (.panicked producerName), [])

/-- Closes the queue after a fault. -/
def release (w : World LineSink Reading) : World LineSink Reading :=
  match w.interject mainName .close with
  | (some (.refused fault), w) =>
    { w with
      journal := w.journal.push
        (mainName, entry .warn s!"Failed to close queue after error: {fault.message}") }
  | (_, w) => w

/-- The report of a consumer, or the fault that it ended with, and what is logged about it. -/
def joinConsumer (name : String) :
    Option (Ending ConsumerReport) → Except RelayFault ConsumerReport × Log.Entry
  | some (.finished report) =>
    let delivered := Numeral.textOfNat report.delivered
    (.ok report, entry .debug s!"{report.name} delivered {delivered} item(s)")
  | some (.failed fault) => (.error (.queue fault), entry .error s!"{name} failed: {fault.message}")
  | some .panicked | none => (.error (.panicked name), entry .error s!"{name} panicked")

/-- What became of all consumers, in order. -/
def joinConsumers (w : World LineSink Reading) :
    List (Except RelayFault ConsumerReport × Log.Entry) :=
  w.threads.filterMap fun thread =>
    match thread.task with
    | .consumer c => some (joinConsumer thread.name c.ending?)
    | _ => none

/-- The reports among some results, and the first fault. -/
def sift {ρ : Type} : List (Except RelayFault ρ) → List ρ × Option RelayFault
  | [] => ([], none)
  | .ok report :: rest => (report :: (sift rest).1, (sift rest).2)
  | .error fault :: rest => ((sift rest).1, some fault)

/-- The entries for a report. -/
def reportEntries (report : RelayReport) : List Log.Entry :=
  let inserted := Numeral.textOfNat report.producer.inserted
  let delivered := Numeral.textOfNat report.delivered
  let dropped := Numeral.textOfNat report.producer.dropped
  [entry .info s!"Done: {inserted} inserted, {delivered} delivered, {dropped} dropped",
    entry .debug s!"Pipeline report: {report.json}"]

/-- Destroys the queue after all threads have ended. A fault of a thread comes before one of the
queue. -/
def conclude (w : World LineSink Reading) (producer : Option ProducerReport)
    (consumers : List ConsumerReport) (fault : Option RelayFault) :
    Except RelayFault RelayReport × World LineSink Reading :=
  let (reply, w) := w.interject mainName .destroy
  let log (entries : List Log.Entry) : World LineSink Reading :=
    { w with journal := w.journal ++ entries.map fun entry => (mainName, entry) }
  match reply, fault with
  | some (.refused broken), some fault =>
    (.error fault,
      log [entry .warn s!"Failed to destroy queue after error: {broken.message}"])
  | some (.refused broken), none => (.error (.queue broken), w)
  | _, some fault => (.error fault, w)
  | reply, none =>
    let leftover := match reply with
      | some (.count n) => n
      | _ => 0
    let report : RelayReport := ⟨producer.getD {}, consumers, leftover⟩
    let count := Numeral.textOfNat leftover
    let warning :=
      if leftover = 0 then [] else [entry .warn s!"{count} item(s) left in the queue"]
    (.ok report, log (warning ++ reportEntries report))

/-- What comes of the producer, and what is done about it before the consumers are waited for. -/
def concludeProducer (w : World LineSink Reading) :
    Except RelayFault ProducerReport × World LineSink Reading :=
  let (producer, entries) := joinProducer w
  let w := { w with journal := w.journal ++ entries.map fun entry => (mainName, entry) }
  match producer with
  | .ok _ => (producer, w)
  | .error _ => (producer, release w)

/-- What comes of a run whose consumers have ended. -/
def concludeRun (producer : Except RelayFault ProducerReport) (w : World LineSink Reading) :
    Except RelayFault RelayReport × World LineSink Reading :=
  let consumers := joinConsumers w
  let entries := consumers.map Prod.snd
  let w := { w with journal := w.journal ++ entries.map fun entry => (mainName, entry) }
  let (reports, fault) := sift (consumers.map Prod.fst)
  match producer with
  | .ok report => conclude w (some report) reports fault
  | .error fault => conclude w none reports (some fault)

end Relay

end SensorRelay
