import SensorRelay.Proofs.Queue.Effect
import SensorRelay.Relay.History
import Mathlib.Tactic.Common

/-! # The moves of a world

An event comes about in one of a few ways, which `Cause` lists; all proofs about single events start
from there. To most of them it is enough that whatever happens in a world is a move: a thread runs
through a critical section, it notifies and is heard by nobody, by one thread or by all, a producer
draws, a consumer delivers, a parked thread wakes up for no reason, or nothing changes. `Move` lists
them with what they leave as it was, and `move_of_next?` says that there are no others. What every
move preserves is preserved by a run.
-/

namespace SensorRelay

/-- A thread that hears a notification of all. -/
def Thread.rouse {α : Type} (thread : Thread α) : Thread α :=
  if thread.standing = .parked then { thread with standing := .woken } else thread

@[simp] theorem Thread.task_rouse {α : Type} (thread : Thread α) :
    thread.rouse.task = thread.task := by
  unfold rouse
  split <;> rfl

namespace World

variable {σ α : Type}

theorem mem_parked {w : World σ α} {index : Nat} :
    index ∈ w.parked ↔ ∃ thread, w.threads[index]? = some thread ∧ thread.standing = .parked := by
  simp only [parked, List.mem_map, List.mem_filter, Prod.exists, exists_eq_right, beq_iff_eq,
    List.mk_mem_zipIdx_iff_getElem?]

/-- One move of a world, with the critical section that is part of it. -/
inductive Move [QueueItem α] [Sink σ α] (w next : World σ α) : Option (Visit α) → Prop
  | visits {index : Nat} {thread : Thread α} {call : Call α} {outcome : Outcome α}
      (here : w.threads[index]? = some thread)
      (awake : thread.standing = .ready ∨ thread.standing = .woken)
      (calls : thread.task.call? = some call) (takes : w.queue.Takes call outcome)
      (queue : next.queue = outcome.queue) (sink : next.sink = w.sink)
      (threads : next.threads = w.threads.set index (thread.after outcome).1) :
      Move w next (some ⟨index, call, outcome.reply⟩)
  | unheard {index : Nat} {thread : Thread α} (here : w.threads[index]? = some thread)
      (owes : thread.standing = .owing .one) (nobody : w.parked = [])
      (queue : next.queue = w.queue) (sink : next.sink = w.sink)
      (threads : next.threads = w.threads.set index { thread with standing := .ready }) :
      Move w next none
  | heardByOne {index other : Nat} {thread sleeper : Thread α}
      (here : w.threads[index]? = some thread) (owes : thread.standing = .owing .one)
      (there : w.threads[other]? = some sleeper) (asleep : sleeper.standing = .parked)
      (queue : next.queue = w.queue) (sink : next.sink = w.sink)
      (threads : next.threads = (w.threads.set index { thread with standing := .ready }).set other
        { sleeper with standing := .woken }) : Move w next none
  | heardByAll {index : Nat} {thread : Thread α} (here : w.threads[index]? = some thread)
      (owes : thread.standing = .owing .all) (queue : next.queue = w.queue)
      (sink : next.sink = w.sink)
      (threads : next.threads =
        (w.threads.set index { thread with standing := .ready }).map Thread.rouse) :
      Move w next none
  | draws {index : Nat} {thread : Thread α} {p : Producer α}
      (here : w.threads[index]? = some thread) (ready : thread.standing = .ready)
      (task : thread.task = .producer p) (phase : p.phase = .drawing)
      (queue : next.queue = w.queue) (sink : next.sink = w.sink)
      (threads : next.threads = w.threads.set index { thread with task := .producer p.draw.1 }) :
      Move w next none
  | delivers {index : Nat} {thread : Thread α} {c : Consumer α} {item : α}
      (here : w.threads[index]? = some thread) (ready : thread.standing = .ready)
      (task : thread.task = .consumer c) (phase : c.phase = .delivering item)
      (queue : next.queue = w.queue) (sink : next.sink = (c.deliver item w.sink).2.1)
      (threads : next.threads =
        w.threads.set index { thread with task := .consumer (c.deliver item w.sink).1 }) :
      Move w next none
  | wakes {index : Nat} {thread : Thread α} (here : w.threads[index]? = some thread)
      (asleep : thread.standing = .parked) (queue : next.queue = w.queue)
      (sink : next.sink = w.sink)
      (threads : next.threads = w.threads.set index { thread with standing := .woken }) :
      Move w next none
  | idles (same : next = w) : Move w next none

private theorem queue_wake (w : World σ α) (index : Nat) :
    (w.wake index).queue = w.queue ∧ (w.wake index).sink = w.sink := by
  unfold wake
  split <;> exact ⟨rfl, rfl⟩

private theorem getElem?_wake (w : World σ α) (index place : Nat) :
    (w.wake index).threads[place]? =
      if place = index then (w.threads[place]?).map fun thread => { thread with standing := .woken }
      else w.threads[place]? := by
  unfold wake
  split
  · next thread found =>
    have bound := (List.getElem?_eq_some_iff.mp found).1
    rw [List.getElem?_set]
    by_cases same : index = place
    · subst same
      simp only [bound, if_true, found, Option.map_some]
    · simp only [same, Ne.symm same, if_false]
  · next absent =>
    split
    · next same => simp [same, absent]
    · rfl

private theorem foldl_wake (w : World σ α) (places : List Nat) :
    (places.foldl wake w).queue = w.queue ∧ (places.foldl wake w).sink = w.sink ∧
      ∀ place, (places.foldl wake w).threads[place]? =
        if place ∈ places then
          (w.threads[place]?).map fun thread => { thread with standing := .woken }
        else w.threads[place]? := by
  induction places generalizing w with
  | nil => simp
  | cons index rest ih =>
    obtain ⟨queue, sink, threads⟩ := ih (w.wake index)
    refine ⟨queue.trans (queue_wake w index).1, sink.trans (queue_wake w index).2, fun place => ?_⟩
    rw [List.foldl_cons, threads place, getElem?_wake]
    by_cases same : place = index
    · cases w.threads[place]? <;> simp [same]
    · simp [same]

/-- A notification of all wakes exactly the threads that are parked. -/
theorem notify_all (w : World σ α) (choice : Nat) :
    (w.notify .all choice).queue = w.queue ∧ (w.notify .all choice).sink = w.sink ∧
      (w.notify .all choice).threads = w.threads.map Thread.rouse := by
  obtain ⟨queue, sink, threads⟩ := foldl_wake w w.parked
  refine ⟨queue, sink, List.ext_getElem? fun place => ?_⟩
  rw [List.getElem?_map]
  refine (threads place).trans ?_
  cases found : w.threads[place]? with
  | none => simp
  | some thread =>
    have parked : place ∈ w.parked ↔ thread.standing = .parked := by simp [mem_parked, found]
    by_cases asleep : thread.standing = .parked
    · simp [parked, asleep, Thread.rouse]
    · simp [parked, asleep, Thread.rouse]

/-- A notification of one wakes a thread that is parked, if there is one. -/
theorem notify_one (w : World σ α) (choice : Nat) :
    (w.parked = [] ∧ w.notify .one choice = w) ∨
      ∃ index thread, w.threads[index]? = some thread ∧ thread.standing = .parked ∧
        w.notify .one choice =
          { w with threads := w.threads.set index { thread with standing := .woken } } := by
  simp only [notify]
  split
  · next index found =>
    obtain ⟨thread, here, asleep⟩ := mem_parked.mp (List.mem_of_getElem? found)
    exact .inr ⟨index, thread, here, asleep, by simp [wake, here]⟩
  · next absent =>
    refine .inl ⟨?_, rfl⟩
    by_contra somebody
    have positive := List.length_pos_iff.mpr somebody
    have outside := List.getElem?_eq_none_iff.mp absent
    have inside := Nat.mod_lt choice positive
    omega

variable [QueueItem α] [Sink σ α]

/-- How an event comes about, and what it is then. -/
inductive Cause (w next : World σ α) : Event → Prop
  | calls {index choice : Nat} {thread : Thread α} {call : Call α} {place : Monitor.Fault}
      (here : w.threads[index]? = some thread)
      (awake : thread.standing = .ready ∧ place = .lock ∨ thread.standing = .woken ∧ place = .wait)
      (calls : thread.task.call? = some call) (same : next = w.makeCall index thread call place) :
      Cause w next (.step index choice)
  | notifies {index choice : Nat} {thread : Thread α} {signal : Signal}
      (here : w.threads[index]? = some thread) (owes : thread.standing = .owing signal)
      (same : next =
        (w.update index { thread with standing := .ready } []).notify signal choice) :
      Cause w next (.step index choice)
  | draws {index choice : Nat} {thread : Thread α} {p : Producer α}
      (here : w.threads[index]? = some thread) (ready : thread.standing = .ready)
      (task : thread.task = .producer p) (phase : p.phase = .drawing)
      (same : next = w.update index { thread with task := .producer p.draw.1 } p.draw.2) :
      Cause w next (.step index choice)
  | delivers {index choice : Nat} {thread : Thread α} {c : Consumer α} {item : α}
      (here : w.threads[index]? = some thread) (ready : thread.standing = .ready)
      (task : thread.task = .consumer c) (phase : c.phase = .delivering item)
      (same : next = { w with sink := (c.deliver item w.sink).2.1 }.update index
        { thread with task := .consumer (c.deliver item w.sink).1 } (c.deliver item w.sink).2.2) :
      Cause w next (.step index choice)
  | idles {index choice : Nat} {thread : Thread α} (here : w.threads[index]? = some thread)
      (woken : thread.standing = .woken) (silent : thread.task.call? = none) (same : next = w) :
      Cause w next (.step index choice)
  | wakes {index : Nat} {thread : Thread α} (here : w.threads[index]? = some thread)
      (asleep : thread.standing = .parked) (same : next = w.wake index) :
      Cause w next (.spurious index)
  | lacks {index : Nat} {thread : Thread α} {call : Call α} {item : α}
      (here : w.threads[index]? = some thread) (ready : thread.standing = .ready)
      (calls : thread.task.call? = some call) (adds : call.item? = some item)
      (same : next = w.leave index thread w.queue.insertShort) : Cause w next (.shortage index)

private theorem cause_of_ownStep {w : World σ α} {index : Nat} (choice : Nat)
    {thread : Thread α} (here : w.threads[index]? = some thread)
    (ready : thread.standing = .ready) (silent : thread.task.call? = none)
    (going : thread.task.hasEnded = false) :
    Cause w (w.ownStep index thread) (.step index choice) := by
  unfold ownStep
  split
  · next p task =>
    rw [task] at silent going
    cases phase : p.phase with
    | drawing => exact .draws here ready task phase rfl
    | inserting item => simp [Task.call?, Producer.call?, phase] at silent
    | marking => simp [Task.call?, Producer.call?, phase] at silent
    | closing => simp [Task.call?, Producer.call?, phase] at silent
    | ended ending => simp [Task.hasEnded, Producer.ending?, phase] at going
  · next c task =>
    rw [task] at silent going
    cases phase : c.phase with
    | removing failures => simp [Task.call?, phase] at silent
    | delivering item => exact .delivers here ready task phase rfl
    | ended ending => simp [Task.hasEnded, Consumer.ending?, phase] at going
  · next calls replies task =>
    rw [task] at silent going
    cases calls <;> simp_all [Task.call?, Task.hasEnded]

private theorem cause_of_step {w : World σ α} {index : Nat} (choice : Nat) {thread : Thread α}
    (here : w.threads[index]? = some thread) (able : thread.canStep = true) :
    Cause w (w.step index choice) (.step index choice) := by
  simp only [Thread.canStep] at able
  simp only [step, here]
  cases standing : thread.standing with
  | parked => simp [standing] at able
  | owing signal => exact .notifies here standing rfl
  | ready =>
    cases calls : thread.task.call? with
    | none => exact cause_of_ownStep choice here standing calls (by simpa [standing] using able)
    | some call => exact .calls here (.inl ⟨standing, rfl⟩) calls rfl
  | woken =>
    cases calls : thread.task.call? with
    | none => exact .idles here standing calls rfl
    | some call => exact .calls here (.inr ⟨standing, rfl⟩) calls rfl

/-- Every event comes about in one of these ways. -/
theorem cause_of_next? {w next : World σ α} {event : Event} (happens : w.next? event = some next) :
    Cause w next event := by
  cases event with
  | step index choice =>
    simp only [next?, Option.ite_none_right_eq_some, Option.some.injEq] at happens
    obtain ⟨able, rfl⟩ := happens
    simp only [canStep, Option.any_eq_true] at able
    obtain ⟨thread, here, able⟩ := able
    exact cause_of_step choice here able
  | spurious index =>
    simp only [next?, Option.ite_none_right_eq_some, Option.some.injEq] at happens
    obtain ⟨listed, rfl⟩ := happens
    obtain ⟨thread, here, asleep⟩ := mem_parked.mp listed
    exact .wakes here asleep rfl
  | shortage index =>
    simp only [next?, runShort?] at happens
    split at happens
    · contradiction
    · next thread here =>
      split at happens
      · next item ready adding =>
        cases happens
        obtain ⟨call, calls, adds⟩ := Option.bind_eq_some_iff.mp adding
        exact .lacks here ready calls adds rfl
      · contradiction

private theorem move_leave {w : World σ α} {index : Nat} {thread : Thread α} {call : Call α}
    {outcome : Outcome α} (here : w.threads[index]? = some thread)
    (awake : thread.standing = .ready ∨ thread.standing = .woken)
    (calls : thread.task.call? = some call) (takes : w.queue.Takes call outcome) :
    Move w (w.leave index thread outcome) (some ⟨index, call, outcome.reply⟩) :=
  .visits here awake calls takes rfl rfl rfl

private theorem move_notify {w : World σ α} {index choice : Nat} {thread : Thread α}
    {signal : Signal} (here : w.threads[index]? = some thread)
    (owes : thread.standing = .owing signal) :
    Move w ((w.update index { thread with standing := .ready } []).notify signal choice) none := by
  cases signal with
  | all =>
    obtain ⟨queue, sink, threads⟩ :=
      notify_all (w.update index { thread with standing := .ready } []) choice
    exact .heardByAll here owes queue sink threads
  | one =>
    have bound := (List.getElem?_eq_some_iff.mp here).1
    obtain ⟨nobody, same⟩ | ⟨other, sleeper, there, asleep, same⟩ :=
      notify_one (w.update index { thread with standing := .ready } []) choice
    · rw [same]
      refine .unheard here owes (List.eq_nil_iff_forall_not_mem.mpr fun place listed => ?_)
        rfl rfl rfl
      obtain ⟨sleeper, there, asleep⟩ := mem_parked.mp listed
      have apart : index ≠ place := by
        rintro rfl
        rw [here, Option.some.injEq] at there
        simp [← there, owes] at asleep
      refine List.eq_nil_iff_forall_not_mem.mp nobody place (mem_parked.mpr ⟨sleeper, ?_, asleep⟩)
      simpa [update, List.getElem?_set, apart] using there
    · have apart : index ≠ other := by
        rintro rfl
        simp only [update, List.getElem?_set_self bound, Option.some.injEq] at there
        simp [← there] at asleep
      simp only [update, List.getElem?_set_ne apart] at there
      rw [same]
      exact .heardByOne here owes there asleep rfl rfl rfl

/-- Everything that happens is a move. -/
theorem move_of_next? {w next : World σ α} {event : Event} (happens : w.next? event = some next) :
    Move w next (w.visit? event) := by
  cases cause_of_next? happens with
  | @calls index choice thread call place here awake calls same =>
    subst same
    have visited : w.visit? (.step index choice) =
        some ⟨index, call, (w.queue.perform place call).reply⟩ := by
      obtain ⟨standing, rfl⟩ | ⟨standing, rfl⟩ := awake <;>
        simp only [visit?, bind, here, Option.bind_some, calls, standing]
    rw [visited]
    exact move_leave here (awake.imp And.left And.left) calls (w.queue.effect_perform place call)
  | @notifies index choice thread signal here owes same =>
    subst same
    have silent : w.visit? (.step index choice) = none := by
      cases calls : thread.task.call? <;>
        simp only [visit?, bind, here, Option.bind_some, Option.bind_none, calls, owes]
    rw [silent]
    exact move_notify here owes
  | draws here ready task phase same =>
    subst same
    simp only [visit?, bind, here, Option.bind_some, task, Task.call?, Producer.call?, phase,
      Option.bind_none]
    exact .draws here ready task phase rfl rfl rfl
  | delivers here ready task phase same =>
    subst same
    simp only [visit?, bind, here, Option.bind_some, task, Task.call?, phase, Option.bind_none]
    exact .delivers here ready task phase rfl rfl rfl
  | idles here _ silent same =>
    subst same
    simp only [visit?, bind, here, Option.bind_some, silent, Option.bind_none]
    exact .idles rfl
  | wakes here asleep same =>
    subst same
    exact .wakes here asleep (queue_wake _ _).1 (queue_wake _ _).2 (by simp [wake, here])
  | lacks here ready calls adds same =>
    subst same
    simp only [visit?, bind, here, Option.bind_some, calls]
    exact move_leave here (.inl ready) calls (SharedQueue.effect_insertShort adds)

/-- The queue changes only by the effect of a call. -/
theorem Move.effect {w next : World σ α} {visit : Option (Visit α)} (move : Move w next visit) :
    (visit = none ∧ next.queue = w.queue) ∨
      ∃ index call reply signal, visit = some ⟨index, call, reply⟩ ∧
        SharedQueue.Effect w.queue next.queue call reply signal := by
  cases move with
  | @visits index _ call outcome _ _ _ takes queue =>
    refine .inr ⟨index, call, outcome.reply, outcome.signal, rfl, ?_⟩
    rw [queue]
    exact takes
  | idles same => exact .inl ⟨rfl, congrArg World.queue same⟩
  | unheard _ _ _ queue => exact .inl ⟨rfl, queue⟩
  | heardByOne _ _ _ _ queue => exact .inl ⟨rfl, queue⟩
  | heardByAll _ _ queue => exact .inl ⟨rfl, queue⟩
  | draws _ _ _ _ queue => exact .inl ⟨rfl, queue⟩
  | delivers _ _ _ _ queue => exact .inl ⟨rfl, queue⟩
  | wakes _ _ queue => exact .inl ⟨rfl, queue⟩

/-- The critical section of an event is a call that is performed, or one that would add an item and
finds no memory for it. -/
theorem outcome_of_visit? {w next : World σ α} {event : Event} {seen : Visit α}
    (happens : w.next? event = some next) (visited : w.visit? event = some seen) :
    ∃ outcome, next.queue = outcome.queue ∧ seen.reply = outcome.reply ∧
      ((∃ place, outcome = w.queue.perform place seen.call) ∨
        seen.call.item? ≠ none ∧ outcome = w.queue.insertShort) := by
  cases cause_of_next? happens with
  | @calls _ _ _ call place here awake calls same =>
    subst same
    refine ⟨w.queue.perform place call, rfl, ?_⟩
    obtain ⟨standing, rfl⟩ | ⟨standing, rfl⟩ := awake <;>
      simp only [visit?, bind, here, Option.bind_some, calls, standing, Option.some.injEq]
        at visited <;>
      exact visited ▸ ⟨rfl, .inl ⟨_, rfl⟩⟩
  | @notifies _ _ thread _ here owes =>
    cases calls : thread.task.call? <;> simp [visit?, here, calls, owes] at visited
  | draws here _ task phase => simp [visit?, here, task, Task.call?, Producer.call?, phase] at visited
  | delivers here _ task phase => simp [visit?, here, task, Task.call?, phase] at visited
  | idles here _ silent => simp [visit?, here, silent] at visited
  | wakes => cases visited
  | lacks here _ calls adds same =>
    subst same
    simp only [visit?, bind, here, Option.bind_some, calls, Option.some.injEq] at visited
    exact visited ▸ ⟨w.queue.insertShort, rfl, rfl, .inr ⟨by simp [adds], rfl⟩⟩

omit [Sink σ α] in
/-- A step has memory enough. -/
theorem ne_allocation_of_visit? {w : World σ α} {index choice : Nat} {seen : Visit α}
    (visited : w.visit? (.step index choice) = some seen) :
    seen.reply ≠ some (.refused .allocation) := by
  simp only [visit?, bind, Option.bind_eq_some_iff] at visited
  obtain ⟨thread, _, call, _, critical⟩ := visited
  split at critical
  · cases critical
    exact w.queue.perform_ne_allocation _ _
  · cases critical
    exact w.queue.perform_ne_allocation _ _
  · cases critical

omit [Sink σ α] in
/-- Memory is missing only where there is a shortage. -/
theorem ne_allocation_of_supplied {w : World σ α} {event : Event} {seen : Visit α}
    (supplied : ∀ index, event ≠ .shortage index) (visited : w.visit? event = some seen) :
    seen.reply ≠ some (.refused .allocation) := by
  cases event with
  | step index choice => exact ne_allocation_of_visit? visited
  | spurious index => cases visited
  | shortage index => exact (supplied index rfl).elim

/-- What every move preserves holds in all worlds that can be reached. -/
theorem invariant_of_reaches (holds : World σ α → Prop) {first last : World σ α}
    (moves : ∀ {w next visit}, Move w next visit → holds w → holds next)
    (start : holds first) (reached : Reaches first last) : holds last := by
  induction reached with
  | refl => exact start
  | next _ happens ih => exact moves (move_of_next? happens) ih

theorem Reaches.trans {first middle last : World σ α} (left : Reaches first middle)
    (right : Reaches middle last) : Reaches first last := by
  induction right with
  | refl => exact left
  | next _ happens ih => exact .next ih happens

theorem visits_cons {w next : World σ α} {event : Event} (happens : w.next? event = some next)
    (rest : List Event) :
    w.visits (event :: rest) = (w.visit? event).toList ++ next.visits rest := by
  simp only [visits, happens, Option.map_some, Option.getD_some]

/-- A run and its history, taken apart from the first event on. -/
theorem run_induction (holds : World σ α → List (Visit α) → World σ α → Prop)
    (stays : ∀ w, holds w [] w)
    (moves : ∀ {w next last visit visits}, Move w next visit → holds next visits last →
      holds w (visit.toList ++ visits) last)
    {first last : World σ α} {events : List Event} (replayed : first.replay? events = some last) :
    holds first (first.visits events) last := by
  induction events generalizing first with
  | nil =>
    cases replayed
    exact stays _
  | cons event rest ih =>
    obtain ⟨next, happens, later⟩ := Option.bind_eq_some_iff.mp replayed
    rw [visits_cons happens]
    exact moves (move_of_next? happens) (ih later)

theorem replay?_append (w : World σ α) (earlier later : List Event) :
    w.replay? (earlier ++ later) =
      (w.replay? earlier).bind fun middle => middle.replay? later := by
  induction earlier generalizing w with
  | nil => rfl
  | cons event rest ih =>
    rw [List.cons_append, replay?, replay?]
    cases w.next? event with
    | none => rfl
    | some next => exact ih next

/-- What can be replayed is reached. -/
theorem reaches_of_replay? {first last : World σ α} {events : List Event}
    (replayed : first.replay? events = some last) : Reaches first last := by
  induction events generalizing first with
  | nil =>
    cases replayed
    exact .refl _
  | cons event rest ih =>
    obtain ⟨next, happens, later⟩ := Option.bind_eq_some_iff.mp replayed
    exact Reaches.trans (.next (.refl _) happens) (ih later)

end World

end SensorRelay
