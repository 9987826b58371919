import SensorRelay.Relay.Consumer

/-! # Threads around one queue

Producers, consumers and other callers share a queue and a sink. A step of a thread is one critical
section, one notification, or one step of its own; steps of different threads may follow each other
in any order. A remover that finds an open queue empty parks; it goes on only after it was woken by
a notification or for no reason at all, and then looks at the queue again.
-/

namespace SensorRelay

inductive Task (α : Type)
  | producer (p : Producer α)
  | consumer (c : Consumer α)
  /-- A thread that makes calls one after the other, with the replies so far. -/
  | caller (calls : List (Call α)) (replies : List (Reply α))
deriving DecidableEq

/-- Whether a thread can take its next step. -/
inductive Standing
  | ready
  | parked
  /-- Woken, but without the lock yet. -/
  | woken
  /-- Has let go of the lock, but has yet to notify. -/
  | owing (signal : Signal)
deriving DecidableEq, Repr

structure Thread (α : Type) where
  name : String
  task : Task α
  standing : Standing := .ready
deriving DecidableEq

/-- All that threads share, the threads, and what they have logged, oldest first. -/
structure World (σ α : Type) where
  queue : SharedQueue α
  sink : Monitor σ
  threads : List (Thread α)
  journal : Array (String × Log.Entry) := #[]

namespace Task

variable {α : Type}

def call? : Task α → Option (Call α)
  | .producer p => p.call?
  | .consumer c =>
    match c.phase with
    | .removing _ => some .remove
    | _ => none
  | .caller calls _ => calls.head?

def resume (task : Task α) (reply : Reply α) : Task α × List Log.Entry :=
  match task with
  | .producer p =>
    let (p, entries) := p.resume reply
    (.producer p, entries)
  | .consumer c =>
    match c.phase with
    | .removing failures =>
      let (c, entries) := c.afterRemove failures reply
      (.consumer c, entries)
    | _ => (.consumer c, [])
  | .caller calls replies => (.caller calls.tail (replies ++ [reply]), [])

def hasEnded : Task α → Bool
  | .producer p => p.ending?.isSome
  | .consumer c => c.ending?.isSome
  | .caller calls _ => calls.isEmpty

end Task

/-- Can a thread take a step without being woken first? -/
def Thread.canStep {α : Type} (thread : Thread α) : Bool :=
  match thread.standing with
  | .parked => false
  | .owing _ => true
  | .woken | .ready => !thread.task.hasEnded

/-- A thread after a critical section, and what it logs. It parks if there is no reply. -/
def Thread.after {α : Type} (thread : Thread α) (outcome : Outcome α) :
    Thread α × List Log.Entry :=
  match outcome.reply with
  | none => ({ thread with standing := .parked }, [])
  | some reply =>
    let (task, entries) := thread.task.resume reply
    let standing : Standing := match outcome.signal with
      | some signal => .owing signal
      | none => .ready
    ({ thread with task, standing }, entries)

def Thread.supplied {α : Type} (thread : Thread α) (element : Drawn α) : Thread α :=
  match thread.task with
  | .producer p => { thread with task := .producer { p with source := p.source ++ [element] } }
  | _ => thread

namespace World

variable {σ α : Type}

/-- Puts a thread in its place and logs under its name. -/
def update (w : World σ α) (index : Nat) (thread : Thread α) (entries : List Log.Entry) :
    World σ α :=
  { w with
    threads := w.threads.set index thread
    journal := w.journal ++ entries.map fun entry => (thread.name, entry) }

def parked (w : World σ α) : List Nat :=
  (w.threads.zipIdx.filter fun (thread, _) => thread.standing == .parked).map Prod.snd

def wake (w : World σ α) (index : Nat) : World σ α :=
  match w.threads[index]? with
  | some thread => { w with threads := w.threads.set index { thread with standing := .woken } }
  | none => w

/-- Notifies parked threads: all of them, or one, which `choice` picks. Nobody hears it if nobody
is parked. -/
def notify (w : World σ α) (signal : Signal) (choice : Nat) : World σ α :=
  match signal with
  | .all => w.parked.foldl wake w
  | .one =>
    match w.parked[choice % w.parked.length]? with
    | some index => w.wake index
    | none => w

def leave (w : World σ α) (index : Nat) (thread : Thread α) (outcome : Outcome α) : World σ α :=
  let (thread, entries) := thread.after outcome
  { w with queue := outcome.queue }.update index thread (outcome.entries ++ entries)

/-- A thread makes its call. `place` is where it would meet a poisoned lock. -/
def makeCall [QueueItem α] (w : World σ α) (index : Nat) (thread : Thread α) (call : Call α)
    (place : Monitor.Fault) : World σ α :=
  w.leave index thread (w.queue.perform place call)

/-- The thread at a place makes an insertion for which there is no memory, if it is about to make
one. -/
def runShort? [QueueItem α] (w : World σ α) (index : Nat) : Option (World σ α) :=
  match w.threads[index]? with
  | none => none
  | some thread =>
    match thread.standing, thread.task.call?.bind Call.item? with
    | .ready, some _ => some (w.leave index thread w.queue.insertShort)
    | _, _ => none

/-- A thread takes a step that is no call on the queue, if there is one. -/
def ownStep [QueueItem α] [Sink σ α] (w : World σ α) (index : Nat) (thread : Thread α) :
    World σ α :=
  match thread.task with
  | .producer p =>
    match p.phase with
    | .drawing =>
      let (p, entries) := p.draw
      w.update index { thread with task := .producer p } entries
    | _ => w
  | .consumer c =>
    match c.phase with
    | .delivering item =>
      let ⟨queue, sink, threads, journal⟩ := w
      let (c, sink, entries) := c.deliver item sink
      let w : World σ α := ⟨queue, sink, threads, journal⟩
      w.update index { thread with task := .consumer c } entries
    | _ => w
  | .caller _ _ => w

/-- The next step of the thread at a place, which changes nothing if there is none. `choice` picks
the thread that a notification of one wakes. -/
def step [QueueItem α] [Sink σ α] (w : World σ α) (index choice : Nat) : World σ α :=
  match w.threads[index]? with
  | none => w
  | some thread =>
    match thread.standing, thread.task.call? with
    | .parked, _ => w
    | .owing signal, _ =>
      (w.update index { thread with standing := .ready } []).notify signal choice
    | .woken, some call => w.makeCall index thread call .wait
    | .woken, none => w
    | .ready, some call => w.makeCall index thread call .lock
    | .ready, none => w.ownStep index thread

/-- Is the thread at a place about to draw from a source that has nothing at hand? -/
def isDrawing (w : World σ α) (index : Nat) : Bool :=
  w.threads[index]?.any fun thread =>
    match thread.standing, thread.task with
    | .ready, .producer p =>
      match p.phase with
      | .drawing => p.source.isEmpty
      | _ => false
    | _, _ => false

def supply (w : World σ α) (index : Nat) (element : Drawn α) : World σ α :=
  { w with threads := w.threads.modify index fun thread => thread.supplied element }

def canStep (w : World σ α) (index : Nat) : Bool := w.threads[index]?.any Thread.canStep

/-- Something that happens: a step of a thread, a parked thread waking up for no reason, or an
insertion for which there is no memory. -/
inductive Event
  | step (index choice : Nat)
  | spurious (index : Nat)
  | shortage (index : Nat)
deriving DecidableEq, Repr

def next? [QueueItem α] [Sink σ α] (w : World σ α) : Event → Option (World σ α)
  | .step index choice => if w.canStep index then some (w.step index choice) else none
  | .spurious index => if index ∈ w.parked then some (w.wake index) else none
  | .shortage index => w.runShort? index

/-- What events lead to, one after the other, if each of them can happen. -/
def replay? [QueueItem α] [Sink σ α] (w : World σ α) : List Event → Option (World σ α)
  | [] => some w
  | event :: rest => (w.next? event).bind fun next => next.replay? rest

inductive Reaches [QueueItem α] [Sink σ α] : World σ α → World σ α → Prop
  | refl (w : World σ α) : Reaches w w
  | next {first middle last : World σ α} {event : Event} (reached : Reaches first middle)
      (happens : middle.next? event = some last) : Reaches first last

/-- The place of the last thread that can take a step. -/
def last? (w : World σ α) : Option Nat := (List.range w.threads.length).reverse.find? w.canStep

/-- Lets the last thread that can take a step take it, over and over, for a number of steps at most
or until no thread can. -/
def settle [QueueItem α] [Sink σ α] : Nat → World σ α → World σ α
  | 0, w => w
  | steps + 1, w =>
    match w.last? with
    | none => w
    | some index => settle steps (w.step index 0)

/-- Runs the thread at a place until it can take no further step, for a number of steps at most.
Before each step its surroundings act, and may remember something. -/
def runAmid [QueueItem α] [Sink σ α] {ε : Type} (act : ε → World σ α → ε × World σ α)
    (index : Nat) : Nat → ε → World σ α → ε × World σ α
  | 0, memory, w => (memory, w)
  | steps + 1, memory, w =>
    let (memory, w) := act memory w
    if w.canStep index then runAmid act index steps memory (w.step index 0) else (memory, w)

/-- Somebody else makes a call and notifies at once, but does not wait; the reply is missing if the
call would have to. -/
def interject [QueueItem α] (w : World σ α) (name : String) (call : Call α) :
    Option (Reply α) × World σ α :=
  let outcome := w.queue.perform .lock call
  match outcome.reply with
  | none => (none, w)
  | some reply =>
    let w := { w with
      queue := outcome.queue
      journal := w.journal ++ outcome.entries.map fun entry => (name, entry) }
    (some reply, match outcome.signal with
      | some signal => w.notify signal 0
      | none => w)

theorem reaches_settle [QueueItem α] [Sink σ α] (steps : Nat) (w : World σ α) :
    Reaches w (w.settle steps) := by
  suffices ∀ first, Reaches first w → Reaches first (w.settle steps) from this w (.refl w)
  induction steps generalizing w with
  | zero => exact fun _ reached => reached
  | succ steps ih =>
    intro first reached
    unfold settle
    split
    · exact reached
    · rename_i index found
      have able : w.canStep index := List.find?_some (by simpa [last?] using found)
      exact ih _ first (.next reached (show w.next? (.step index 0) = some (w.step index 0) by
        simp [next?, able]))

end World

end SensorRelay
