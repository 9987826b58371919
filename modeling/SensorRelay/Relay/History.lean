import SensorRelay.Relay.World

/-! # Histories

What threads do to a queue is a history of critical sections, in the order in which they held the
lock. Some of them put an item into the queue, and some take one out. What consumers do to a sink is
another history.
-/

namespace SensorRelay

/-- A critical section of a thread: its call, and the reply, which is missing if it parked. -/
structure Visit (α : Type) where
  index : Nat
  call : Call α
  reply : Option (Reply α)
deriving DecidableEq, Repr

namespace Visit

variable {α : Type}

/-- The item that was put into the queue. -/
def inserted? [QueueItem α] (visit : Visit α) : Option α :=
  match visit.reply with
  | some .done => visit.call.item?
  | _ => none

/-- The item that was taken out of the queue. -/
def removed? (visit : Visit α) : Option α :=
  match visit.reply with
  | some (.item item) => some item
  | _ => none

/-- The items that were put into the queue, in order. -/
def inserted [QueueItem α] (visits : List (Visit α)) : List α := visits.filterMap inserted?

/-- The items that were taken out of the queue, in order. -/
def removed (visits : List (Visit α)) : List α := visits.filterMap removed?

@[simp] theorem inserted_nil [QueueItem α] : inserted ([] : List (Visit α)) = [] := rfl

@[simp] theorem removed_nil : removed ([] : List (Visit α)) = [] := rfl

@[simp] theorem inserted_append [QueueItem α] (earlier later : List (Visit α)) :
    inserted (earlier ++ later) = inserted earlier ++ inserted later := List.filterMap_append

@[simp] theorem removed_append (earlier later : List (Visit α)) :
    removed (earlier ++ later) = removed earlier ++ removed later := List.filterMap_append

@[simp] theorem inserted_singleton [QueueItem α] (visit : Visit α) :
    inserted [visit] = visit.inserted?.toList := by
  cases found : visit.inserted? <;> simp [inserted, found]

@[simp] theorem removed_singleton (visit : Visit α) :
    removed [visit] = visit.removed?.toList := by
  cases found : visit.removed? <;> simp [removed, found]

end Visit

/-- What becomes of an item that a consumer is about to write. -/
inductive Fate
  | taken
  | rejected
  | panicked
  /-- The sink was poisoned before. -/
  | barred
deriving DecidableEq, Repr

def Verdict.fate : Verdict → Fate
  | .taken => .taken
  | .rejected _ => .rejected
  | .panicked => .panicked

namespace Fate

def of {σ α : Type} [Sink σ α] (sink : Monitor σ) (item : α) : Fate :=
  match sink.lock with
  | .error _ => .barred
  | .ok state => (Sink.write state item).1.fate

/-- How a consumer ends that has lost an item. -/
def ending? : Fate → Option (Ending ConsumerReport)
  | .taken | .rejected => none
  | .panicked => some .panicked
  | .barred => some (.failed (.poisoned Monitor.Fault.lock.message))

end Fate

/-- An item that the consumer at a place has tried to write. -/
structure Delivery (α : Type) where
  index : Nat
  item : α
  fate : Fate
deriving DecidableEq, Repr

namespace World

variable {σ α : Type} [QueueItem α]

/-- The critical section that an event runs through, if it does. -/
def visit? (w : World σ α) : Event → Option (Visit α)
  | .step index _ => do
    let thread ← w.threads[index]?
    let call ← thread.task.call?
    match thread.standing with
    | .ready => some ⟨index, call, (w.queue.perform .lock call).reply⟩
    | .woken => some ⟨index, call, (w.queue.perform .wait call).reply⟩
    | _ => none
  | .spurious _ => none
  | .shortage index => do
    let thread ← w.threads[index]?
    let call ← thread.task.call?
    some ⟨index, call, w.queue.insertShort.reply⟩

/-- The critical sections that events run through, in order. -/
def visits [Sink σ α] (w : World σ α) : List Event → List (Visit α)
  | [] => []
  | event :: rest =>
    (w.visit? event).toList ++ ((w.next? event).map fun next => next.visits rest).getD []

omit [QueueItem α] in
/-- The delivery that an event is, if it is one. -/
def delivery? [Sink σ α] (w : World σ α) : Event → Option (Delivery α)
  | .step index _ => do
    let thread ← w.threads[index]?
    match thread.standing, thread.task with
    | .ready, .consumer c =>
      match c.phase with
      | .delivering item => some ⟨index, item, .of w.sink item⟩
      | _ => none
    | _, _ => none
  | _ => none

/-- The deliveries among events, in order. -/
def deliveries [Sink σ α] (w : World σ α) : List Event → List (Delivery α)
  | [] => []
  | event :: rest =>
    (w.delivery? event).toList ++ ((w.next? event).map fun next => next.deliveries rest).getD []

end World

end SensorRelay
