import SensorRelay.Proofs.World.Standing

/-! # Whose turn it is

Every event is the turn of one thread. A thread that is ready stays as it is while it is the turn of
others (`bystander_of_next?`); when its own turn comes, it makes its call, draws or delivers
(`turn_of_next?`). So what one thread does in a run can be followed turn by turn, whatever the
others do in between.
-/

namespace SensorRelay.World

variable {σ α : Type}

/-- The place of the thread whose turn an event is. -/
def Event.place : Event → Nat
  | .step index _ | .spurious index | .shortage index => index

/-- How many events are the turn of the thread at a place. -/
def turns (index : Nat) (events : List Event) : Nat :=
  events.countP fun event => event.place == index

theorem turns_cons (index : Nat) (event : Event) (rest : List Event) :
    turns index (event :: rest) = turns index rest + if event.place = index then 1 else 0 := by
  simp only [turns, List.countP_cons, beq_iff_eq]

theorem canStep_of_ready {w : World σ α} {index : Nat} {thread : Thread α}
    (here : w.threads[index]? = some thread) (ready : thread.standing = .ready) :
    w.canStep index = !thread.task.hasEnded := by
  rw [canStep, here, Option.any_some, Thread.canStep, ready]

/-- Notifications reach threads that are parked. -/
private theorem getElem?_notify {w : World σ α} {index : Nat} {thread : Thread α}
    (here : w.threads[index]? = some thread) (ready : thread.standing = .ready) (signal : Signal)
    (choice : Nat) : (w.notify signal choice).threads[index]? = some thread := by
  cases signal with
  | all =>
    rw [(notify_all w choice).2.2, List.getElem?_map, here]
    simp [Thread.rouse, ready]
  | one =>
    obtain ⟨_, same⟩ | ⟨other, sleeper, there, asleep, same⟩ := notify_one w choice
    · rw [same]
      exact here
    · rw [same]
      exact getElem?_set_apart there here (by simp [asleep, ready]) _

variable [QueueItem α] {w next : World σ α} {event : Event} {index : Nat} {thread : Thread α}

/-- Threads go through critical sections when it is their turn. -/
theorem index_of_visit? {seen : Visit α} (visited : w.visit? event = some seen) :
    seen.index = event.place := by
  cases event with
  | step place choice =>
    simp only [visit?, bind, Option.bind_eq_some_iff] at visited
    obtain ⟨_, _, _, _, visited⟩ := visited
    split at visited <;> cases visited <;> rfl
  | spurious place => cases visited
  | shortage place =>
    simp only [visit?, bind, Option.bind_eq_some_iff] at visited
    obtain ⟨_, _, _, _, visited⟩ := visited
    cases visited
    rfl

variable [Sink σ α]

omit [QueueItem α] in
/-- Consumers that have an item in hand make deliveries when it is their turn. -/
theorem consumer_of_delivery? {delivery : Delivery α}
    (delivers : w.delivery? event = some delivery) :
    delivery.index = event.place ∧ ∃ thread c item, w.threads[delivery.index]? = some thread ∧
      thread.task = .consumer c ∧ c.phase = .delivering item := by
  cases event with
  | step place choice =>
    simp only [delivery?, bind, Option.bind_eq_some_iff] at delivers
    obtain ⟨thread, here, delivers⟩ := delivers
    split at delivers
    · next c _ task =>
      split at delivers
      · next item phase =>
        cases delivers
        exact ⟨rfl, thread, c, item, here, task, phase⟩
      · cases delivers
    · cases delivers
  | spurious place => cases delivers
  | shortage place => cases delivers

/-- A thread that is ready stays as it is while it is the turn of others. -/
theorem bystander_of_next? (happens : w.next? event = some next)
    (here : w.threads[index]? = some thread) (ready : thread.standing = .ready)
    (apart : event.place ≠ index) : next.threads[index]? = some thread := by
  have untouched (other : Thread α) {place : Nat} (apart : place ≠ index) :
      (w.threads.set place other)[index]? = some thread := by
    rw [List.getElem?_set_ne apart, here]
  cases cause_of_next? happens with
  | calls _ _ _ same => exact same ▸ untouched _ apart
  | notifies _ _ same => exact same ▸ getElem?_notify (untouched _ apart) ready _ _
  | draws _ _ _ _ same => exact same ▸ untouched _ apart
  | delivers _ _ _ _ same => exact same ▸ untouched _ apart
  | idles _ _ _ same => exact same ▸ here
  | wakes there _ same =>
    rw [same, wake, there]
    exact untouched _ apart
  | lacks _ _ _ _ same => exact same ▸ untouched _ apart

/-- What a thread does that is ready when its turn comes. -/
inductive Turn (w next : World σ α) (event : Event) (index : Nat) (thread : Thread α) : Prop
  | calls {call : Call α} {outcome : Outcome α} (calls : thread.task.call? = some call)
      (made : outcome = w.queue.perform .lock call ∨ outcome = w.queue.insertShort)
      (visited : w.visit? event = some ⟨index, call, outcome.reply⟩)
      (after : next.threads[index]? = some (thread.after outcome).1)
  | draws {p : Producer α} (task : thread.task = .producer p) (phase : p.phase = .drawing)
      (silent : w.visit? event = none)
      (after : next.threads[index]? = some { thread with task := .producer p.draw.1 })
  | delivers {c : Consumer α} {item : α} (task : thread.task = .consumer c)
      (phase : c.phase = .delivering item) (silent : w.visit? event = none)
      (after : next.threads[index]? =
        some { thread with task := .consumer (c.deliver item w.sink).1 })

/-- A thread that is ready takes its turn in one of these ways. -/
theorem turn_of_next? (happens : w.next? event = some next)
    (here : w.threads[index]? = some thread) (ready : thread.standing = .ready)
    (own : event.place = index) : Turn w next event index thread := by
  subst own
  have bound := (List.getElem?_eq_some_iff.mp here).1
  cases cause_of_next? happens with
  | calls there awake calls same =>
    cases here.symm.trans there
    obtain ⟨_, rfl⟩ | ⟨woken, _⟩ := awake
    · refine .calls calls (.inl rfl) ?_ (same ▸ List.getElem?_set_self bound)
      simp [visit?, Event.place, there, calls, ready]
    · simp [ready] at woken
  | notifies there owes =>
    cases here.symm.trans there
    simp [ready] at owes
  | draws there _ task phase same =>
    cases here.symm.trans there
    refine .draws task phase ?_ (same ▸ List.getElem?_set_self bound)
    simp [visit?, there, task, Task.call?, Producer.call?, phase]
  | delivers there _ task phase same =>
    cases here.symm.trans there
    refine .delivers task phase ?_ (same ▸ List.getElem?_set_self bound)
    simp [visit?, there, task, Task.call?, phase]
  | idles there woken =>
    cases here.symm.trans there
    simp [ready] at woken
  | wakes there asleep =>
    cases here.symm.trans there
    simp [ready] at asleep
  | lacks there _ calls _ same =>
    cases here.symm.trans there
    refine .calls calls (.inr rfl) ?_ (same ▸ List.getElem?_set_self bound)
    simp [visit?, Event.place, there, calls]

end SensorRelay.World
