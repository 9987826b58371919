import SensorRelay.Queue.Basic

/-! # Producers

A producer moves the items of a source into a queue and then ends the stream. It is a machine that
takes one step at a time, so that any other thread may act between two steps; what it does next is
its phase.
-/

namespace SensorRelay

/-- At the end of its source a producer inserts one marker per consumer, or closes the queue. -/
inductive Termination
  | sentinel
  | close
deriving DecidableEq, Repr, Inhabited

namespace Termination

def standard : Termination := .close

def name : Termination → String
  | .sentinel => "sentinel"
  | .close => "close"

def all : List Termination := [.sentinel, .close]

/-- The way with exactly this name. -/
def ofName? (name : String) : Option Termination := all.find? fun t => t.name == name

/-- The way with a name, in any case of its letters. -/
def parse (text : String) : Except String Termination :=
  let name := text.map Char.toLower
  match ofName? name with
  | some t => .ok t
  | none => .error s!"unknown termination '{name}' (expected sentinel or close)"

end Termination

/-- How a thread ended: with a report, with a fault, or by a panic. -/
inductive Ending (ρ : Type)
  | finished (report : ρ)
  | failed (fault : QueueFault)
  | panicked
deriving DecidableEq, Repr

/-- One element of a source. -/
inductive Drawn (α : Type)
  | item (item : α)
  | failure (text : String)
deriving DecidableEq, Repr

/-- What became of the elements of a source, and how many markers were inserted after them. -/
structure ProducerReport where
  inserted : Nat := 0
  dropped : Nat := 0
  sourceErrors : Nat := 0
  markers : Nat := 0
deriving DecidableEq, Repr, Inhabited

/-- What a producer does next. -/
inductive ProducerPhase (α : Type)
  | drawing
  | inserting (item : α)
  | marking
  | closing
  | ended (ending : Ending ProducerReport)
deriving DecidableEq, Repr

/-- A producer on its way through its source. -/
structure Producer (α : Type) where
  source : List (Drawn α)
  termination : Termination
  /-- How many consumers wait for the end of the stream. -/
  consumers : Nat
  /-- How many elements are dealt with. -/
  index : Nat := 0
  report : ProducerReport := {}
  phase : ProducerPhase α := .drawing
deriving DecidableEq, Repr

namespace Producer

variable {α : Type}

def entry (level : Log.Level) (message : String) : Log.Entry := ⟨level, .producer, message⟩

def indexText (p : Producer α) : String := Numeral.textOfNat p.index

/-- The entry for a stream that was ended. -/
def finishEntry (report : ProducerReport) : Log.Entry :=
  let inserted := Numeral.textOfNat report.inserted
  let dropped := Numeral.textOfNat report.dropped
  let errors := Numeral.textOfNat report.sourceErrors
  entry .info (s!"Producer finished: {inserted} inserted, {dropped} dropped, " ++
    s!"{errors} source error(s)")

def finish (p : Producer α) : Producer α × List Log.Entry :=
  ({ p with phase := .ended (.finished p.report) }, [finishEntry p.report])

/-- Turns from the source to ending the stream. -/
def wrapUp (p : Producer α) : Producer α × List Log.Entry :=
  match p.termination, p.consumers with
  | .close, _ => ({ p with phase := .closing }, [])
  | .sentinel, 0 => p.finish
  | .sentinel, _ + 1 => ({ p with phase := .marking }, [])

/-- Draws the next element. Failures and items that carry the id of the marker are counted and left
out. -/
def draw [QueueItem α] (p : Producer α) : Producer α × List Log.Entry :=
  match p.source with
  | [] => p.wrapUp
  | .failure text :: rest =>
    ({ p with
        source := rest, index := p.index + 1
        report := { p.report with sourceErrors := p.report.sourceErrors + 1 } },
      [entry .error s!"Source error at item #{p.indexText}: {text}"])
  | .item item :: rest =>
    match QueueItem.inspect item with
    | .panicked => ({ p with source := rest, phase := .ended .panicked }, [])
    | .seen true _ =>
      ({ p with
          source := rest, index := p.index + 1
          report := { p.report with dropped := p.report.dropped + 1 } },
        [entry .warn
          s!"Dropping item #{p.indexText}: it carries the reserved end-of-stream id"])
    | .seen false item => ({ p with source := rest, phase := .inserting item }, [])

/-- Goes on after the insertion of an item. -/
def afterInsert (p : Producer α) : Reply α → Producer α × List Log.Entry
  | .refused fault =>
    ({ p with
        phase := .drawing, index := p.index + 1
        report := { p.report with dropped := p.report.dropped + 1 } },
      [entry .warn s!"Queue insert failed, dropping item #{p.indexText}: {fault.message}"])
  | _ =>
    ({ p with
        phase := .drawing, index := p.index + 1
        report := { p.report with inserted := p.report.inserted + 1 } }, [])

/-- Goes on after the insertion of a marker. If it was refused the queue is closed instead. -/
def afterMarker (p : Producer α) : Reply α → Producer α × List Log.Entry
  | .refused fault =>
    let number := Numeral.textOfNat (p.report.markers + 1)
    let count := Numeral.textOfNat p.consumers
    ({ p with phase := .closing },
      [entry .error (s!"Failed to insert end-of-stream marker {number}/{count}: {fault.message}" ++
        "; closing queue instead")])
  | _ =>
    let p := { p with report := { p.report with markers := p.report.markers + 1 } }
    if p.report.markers < p.consumers then (p, []) else p.finish

/-- Ends after the queue was closed, or could not be. -/
def afterClose (p : Producer α) : Reply α → Producer α × List Log.Entry
  | .refused fault => ({ p with phase := .ended (.failed fault) }, [])
  | _ => p.finish

/-- The call that the producer makes next, if it makes one. -/
def call? (p : Producer α) : Option (Call α) :=
  match p.phase with
  | .inserting item => some (.insert item)
  | .marking => some .insertMarker
  | .closing => some .close
  | _ => none

/-- Goes on with the reply to the call. -/
def resume (p : Producer α) (reply : Reply α) : Producer α × List Log.Entry :=
  match p.phase with
  | .inserting _ => p.afterInsert reply
  | .marking => p.afterMarker reply
  | .closing => p.afterClose reply
  | _ => (p, [])

def ending? (p : Producer α) : Option (Ending ProducerReport) :=
  match p.phase with
  | .ended ending => some ending
  | _ => none

end Producer

end SensorRelay
