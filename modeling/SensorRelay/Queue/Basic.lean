import SensorRelay.Log.Entry
import SensorRelay.Monitor
import SensorRelay.Numeral
import SensorRelay.Queue.Row

/-! # Shared queues

A queue hands items from producers to consumers in the order of their insertion. It is open, closed
to new items, or destroyed. An end-of-stream marker stays at the head once it gets there, so every
consumer sees it. Each call is one critical section: `SharedQueue.perform` says what it does to the
queue, what it answers, whom it has to notify afterwards, and whether it has to wait instead.
-/

namespace SensorRelay

/-- Why a call on a queue was refused. -/
inductive QueueFault
  | allocation
  | poisoned (text : String)
  | destroyed
  | closed
  | exhausted (attempts : Nat) (last : QueueFault)
deriving DecidableEq, Repr, Inhabited

namespace QueueFault

def message : QueueFault → String
  | .allocation => "Failed to allocate queue storage"
  | .poisoned text => s!"Queue synchronisation failed: {text}"
  | .destroyed => "Queue handle is no longer valid (queue destroyed)"
  | .closed => "Queue is closed to new items"
  | .exhausted attempts last =>
    let attempts := Numeral.textOfNat attempts
    s!"Queue operation failed after {attempts} attempts: {last.message}"

def isRetryable : QueueFault → Bool
  | .allocation => true
  | .poisoned _ => true
  | _ => false

/-- The messages of the faults that lie behind a fault, nearest first. -/
def causes : QueueFault → List String
  | .exhausted _ last => last.message :: last.causes
  | _ => []

end QueueFault

/-- What looking for the end-of-stream marker finds: the check may panic, and it may leave its
traces on the item. -/
inductive Inspection (α : Type)
  | panicked
  | seen (isMarker : Bool) (item : α)
deriving DecidableEq, Repr

/-- Items that can travel through a queue. -/
class QueueItem (α : Type) where
  marker : α
  inspect : α → Inspection α
  text : α → String
  bytes : Nat

/-- Whether a queue takes items and gives them. -/
inductive Lifecycle
  | opened
  | closed
  | destroyed
deriving DecidableEq, Repr

/-- What the lock of a queue guards. -/
structure Queue (α : Type) where
  items : Row α := {}
  lifecycle : Lifecycle := .opened
deriving DecidableEq, Repr

/-- A queue that threads share. -/
abbrev SharedQueue (α : Type) := Monitor (Queue α)

inductive Call (α : Type)
  | insert (item : α)
  | insertMarker
  | remove
  | close
  | destroy
  | length
  | isEmpty
  | isClosed
  | isDestroyed
  | peekMarker
deriving DecidableEq, Repr

/-- The item that a call adds to the queue, if it adds one. -/
def Call.item? {α : Type} [QueueItem α] : Call α → Option α
  | .insert item => some item
  | .insertMarker => some QueueItem.marker
  | _ => none

inductive Reply (α : Type)
  | done
  | item (item : α)
  | endOfStream
  | count (n : Nat)
  | flag (holds : Bool)
  | refused (fault : QueueFault)
  | panicked
deriving DecidableEq, Repr

/-- Whom a call notifies after it has let go of the lock. -/
inductive Signal
  | one
  | all
deriving DecidableEq, Repr

/-- What a call does. It waits if there is no reply. -/
structure Outcome (α : Type) where
  queue : SharedQueue α
  reply : Option (Reply α)
  signal : Option Signal := none
  entries : List Log.Entry := []
deriving DecidableEq, Repr

namespace SharedQueue

variable {α : Type}

def empty : SharedQueue α := ⟨{}, false⟩

def addressableBytes : Nat := 2 ^ 47

/-- A queue with room for a number of items, if they leave some of the memory to others. -/
def withCapacity [QueueItem α] (capacity : Nat) : Except QueueFault (SharedQueue α) :=
  if capacity * QueueItem.bytes α < addressableBytes then .ok empty else .error .allocation

/-- An answer that leaves the queue as it is. -/
def answer (q : SharedQueue α) (reply : Reply α) : Outcome α := ⟨q, some reply, none, []⟩

def refuse (q : SharedQueue α) (fault : QueueFault) : Outcome α := q.answer (.refused fault)

/-- Runs a critical section, if the lock can be taken. -/
def locked (q : SharedQueue α) (place : Monitor.Fault) (body : Queue α → Outcome α) : Outcome α :=
  match q.lockAt place with
  | .error fault => q.refuse (.poisoned fault.message)
  | .ok contents => body contents

/-- Adds an item at the end and wakes one waiting remover. -/
def insert (q : SharedQueue α) (item : α) : Outcome α :=
  q.locked .lock fun contents =>
    match contents.lifecycle with
    | .destroyed => q.refuse .destroyed
    | .closed => q.refuse .closed
    | .opened =>
      ⟨⟨{ contents with items := contents.items.push item }, false⟩, some .done, some .one, []⟩

/-- What an insertion does if there is no memory for its item. -/
def insertShort (q : SharedQueue α) : Outcome α :=
  q.locked .lock fun contents =>
    match contents.lifecycle with
    | .destroyed => q.refuse .destroyed
    | .closed => q.refuse .closed
    | .opened => q.refuse .allocation

def markerEntry : Log.Entry := ⟨.trace, .queue, "End-of-stream marker at queue head"⟩

/-- Takes the first item. An open queue without items makes the call wait; a marker at the head
stays there. A call that was woken meets a poisoned lock in its wait. -/
def remove [QueueItem α] (q : SharedQueue α) (place : Monitor.Fault) : Outcome α :=
  q.locked place fun contents =>
    match contents.lifecycle, contents.items.pop? with
    | .opened, none => ⟨q, none, none, []⟩
    | .destroyed, _ => q.refuse .destroyed
    | .closed, none => q.answer .endOfStream
    | lifecycle, some (item, rest) =>
      match QueueItem.inspect item with
      | .panicked => ⟨q.poison, some .panicked, none, []⟩
      | .seen true item =>
        ⟨⟨⟨rest.unpop item, lifecycle⟩, false⟩, some .endOfStream, none, [markerEntry]⟩
      | .seen false item => ⟨⟨⟨rest, lifecycle⟩, false⟩, some (.item item), none, []⟩

/-- Closes the queue to new items and wakes everybody. Closing twice is fine. -/
def close (q : SharedQueue α) : Outcome α :=
  q.locked .lock fun contents =>
    match contents.lifecycle with
    | .destroyed => q.refuse .destroyed
    | .closed => q.answer .done
    | .opened => ⟨⟨{ contents with lifecycle := .closed }, false⟩, some .done, some .all, []⟩

/-- Drops all items for good, tells how many there were, and wakes everybody. -/
def destroy (q : SharedQueue α) : Outcome α :=
  q.locked .lock fun contents =>
    match contents.lifecycle with
    | .destroyed => q.refuse .destroyed
    | _ =>
      let count := Numeral.textOfNat contents.items.length
      ⟨⟨⟨{}, .destroyed⟩, false⟩, some (.count contents.items.length), some .all,
        [⟨.debug, .queue, s!"Queue destroyed, released {count} remaining item(s)"⟩]⟩

def peekMarker [QueueItem α] (q : SharedQueue α) : Outcome α :=
  q.locked .lock fun contents =>
    match contents.items.pop? with
    | none => q.answer (.flag false)
    | some (item, rest) =>
      match QueueItem.inspect item with
      | .panicked => ⟨q.poison, some .panicked, none, []⟩
      | .seen isMarker item =>
        ⟨⟨{ contents with items := rest.unpop item }, false⟩, some (.flag isMarker), none, []⟩

def ask (q : SharedQueue α) (question : Queue α → Reply α) : Outcome α :=
  q.locked .lock fun contents => q.answer (question contents)

/-- Performs a call. `place` is where a poisoned lock is met: in its wait, for a remover that was
woken, and at the lock for everybody else. -/
def perform [QueueItem α] (q : SharedQueue α) (place : Monitor.Fault) : Call α → Outcome α
  | .insert item => q.insert item
  | .insertMarker => q.insert QueueItem.marker
  | .remove => q.remove place
  | .close => q.close
  | .destroy => q.destroy
  | .length => q.ask fun contents => .count contents.items.length
  | .isEmpty => q.ask fun contents => .flag contents.items.isEmpty
  | .isClosed => q.ask fun contents => .flag (contents.lifecycle == .closed)
  | .isDestroyed => q.ask fun contents => .flag (contents.lifecycle == .destroyed)
  | .peekMarker => q.peekMarker

end SharedQueue

end SensorRelay
