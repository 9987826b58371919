import SensorRelay.Proofs.Retry
import SensorRelay.Proofs.World.Poison
import SensorRelay.Proofs.World.Pool
import SensorRelay.Proofs.World.Turn

/-! # After a panic

A marker check that panics leaves the queue as it was, but poisons its lock for good. Producers and
consumers that begin after that are doomed. A producer is refused every item, then the first of its
markers, and at last it cannot even close the queue; a consumer tries to remove as often as its
policy says, and gives up. As they never park, nobody can hold them up: what becomes of them is a
matter of their own turns (`Doom`).
-/

namespace SensorRelay

variable {σ α : Type}

/-- What everybody is told who makes a call at a poisoned queue, unless the lock was poisoned while
they were waiting. -/
def QueueFault.locked : QueueFault := .poisoned Monitor.Fault.lock.message

/-- The calls that the thread at a place makes, in order. -/
def Visit.callsBy (index : Nat) (visits : List (Visit α)) : List (Call α) :=
  (visits.filter fun visit => visit.index == index).map Visit.call

@[simp] theorem Visit.callsBy_nil (index : Nat) :
    callsBy index ([] : List (Visit α)) = [] := rfl

theorem Visit.callsBy_append (index : Nat) (earlier later : List (Visit α)) :
    callsBy index (earlier ++ later) = callsBy index earlier ++ callsBy index later := by
  simp only [callsBy, List.filter_append, List.map_append]

namespace Producer

/-- How many turns a producer takes at most before it ends at a poisoned queue: two for each element
of its source, and three to end the stream. -/
def toGo (p : Producer α) : Nat :=
  match p.phase with
  | .drawing => 2 * p.source.length + 3
  | .inserting _ => 2 * p.source.length + 4
  | .marking => 2
  | .closing => 1
  | .ended _ => 0

variable [QueueItem α]

/-- A producer that has to signal the end of its stream and whose own marker checks do not panic,
and that has not ended unless for the lock. -/
structure Doomed (p : Producer α) : Prop where
  calm : ∀ item, .item item ∈ p.source → QueueItem.inspect item ≠ .panicked
  signals : p.termination = .close ∨ 1 ≤ p.consumers
  ended : ∀ ending, p.phase = .ended ending → ending = .failed .locked

variable {p : Producer α}

/-- What is left to draw from does not panic either. -/
private theorem calm_rest {element : Drawn α} {rest : List (Drawn α)} (doomed : p.Doomed)
    (source : p.source = element :: rest) :
    ∀ item, Drawn.item item ∈ rest → QueueItem.inspect item ≠ .panicked := fun item listed =>
  doomed.calm item (source ▸ List.mem_cons_of_mem _ listed)

theorem Doomed.draw (doomed : p.Doomed) (phase : p.phase = .drawing) :
    p.draw.1.Doomed ∧ p.draw.1.toGo < p.toGo := by
  have before : p.toGo = 2 * p.source.length + 3 := by simp only [toGo, phase]
  have stillDrawing (ending) : p.phase = .ended ending → ending = .failed .locked := by
    simp [phase]
  rw [before]
  unfold Producer.draw
  split
  · unfold wrapUp
    split
    · exact ⟨⟨doomed.calm, doomed.signals, by simp⟩, by simp only [toGo]; omega⟩
    · next termination consumers =>
      have signals := doomed.signals
      simp [termination, consumers] at signals
    · exact ⟨⟨doomed.calm, doomed.signals, by simp⟩, by simp only [toGo]; omega⟩
  · next source =>
    refine ⟨⟨calm_rest doomed source, doomed.signals, stillDrawing⟩, ?_⟩
    simp only [toGo, phase, source, List.length_cons]
    omega
  · next item rest source =>
    have calm := calm_rest doomed source
    split
    · next panics => exact (doomed.calm item (source ▸ List.mem_cons_self) panics).elim
    · refine ⟨⟨calm, doomed.signals, stillDrawing⟩, ?_⟩
      simp only [toGo, phase, source, List.length_cons]
      omega
    · refine ⟨⟨calm, doomed.signals, by simp⟩, ?_⟩
      simp only [toGo, source, List.length_cons]
      omega

/-- Refused an item, it draws again; refused a marker, it tries to close the queue; and refused that
too, it ends. -/
theorem Doomed.resume {call : Call α} (doomed : p.Doomed) (calls : p.call? = some call) :
    (p.resume (.refused .locked)).1.Doomed ∧ (p.resume (.refused .locked)).1.toGo < p.toGo := by
  obtain ⟨calm, signals, _⟩ := doomed
  cases phase : p.phase with
  | drawing => simp [call?, phase] at calls
  | inserting item =>
    simp only [Producer.resume, phase, afterInsert, toGo]
    exact ⟨⟨calm, signals, by simp⟩, by omega⟩
  | marking =>
    simp only [Producer.resume, phase, afterMarker, toGo]
    exact ⟨⟨calm, signals, by simp⟩, by omega⟩
  | closing =>
    simp only [Producer.resume, phase, afterClose, toGo]
    exact ⟨⟨calm, signals, by rintro _ ⟨⟩; rfl⟩, by omega⟩
  | ended ending => simp [call?, phase] at calls

end Producer

namespace Consumer

/-- A consumer that has been refused at the lock a number of times and nothing else: it tries again,
unless it has tried as often as its policy says. -/
structure Doomed (policy : RetryPolicy) (refusals : Nat) (c : Consumer α) : Prop where
  follows : c.policy = policy
  phase : refusals < policy.attempts ∧ c.phase = .removing refusals ∨
    refusals = policy.attempts ∧ c.phase = .ended (.failed (.exhausted policy.attempts .locked))

variable {policy : RetryPolicy} {refusals failures : Nat} {c : Consumer α}

/-- A consumer that was refused at a poisoned queue tries again, unless it may not. -/
theorem afterFault_poisoned (c : Consumer α) (failures : Nat) (text : String) :
    (c.afterFault failures (.poisoned text)).1 =
      { c with
        report := { c.report with removeFailures := c.report.removeFailures + 1 }
        phase :=
          if failures + 1 < c.policy.attempts then .removing (failures + 1)
          else .ended (.failed (.exhausted c.policy.attempts (.poisoned text))) } := by
  have retryable : (QueueFault.poisoned text).isRetryable = true := rfl
  unfold afterFault
  rw [retryable]
  split
  · next delay decision =>
    rw [if_pos (RetryPolicy.next?_eq_some_iff.mp decision).2.1]
  · next decision =>
    obtain rejected | last := RetryPolicy.next?_eq_none_iff.mp decision
    · cases rejected
    · rw [if_neg (Nat.not_lt.mpr last)]
      rfl

theorem doomed_start (name : String) (policy : RetryPolicy) :
    (start name policy : Consumer α).Doomed policy 0 where
  follows := rfl
  phase := .inl ⟨Nat.le_max_right _ _, rfl⟩

theorem Doomed.afterRemove (doomed : c.Doomed policy refusals)
    (phase : c.phase = .removing failures) :
    (c.afterRemove failures (.refused .locked)).1.Doomed policy (refusals + 1) := by
  obtain ⟨rfl, ⟨few, same⟩ | ⟨_, ended⟩⟩ := doomed
  · cases same.symm.trans phase
    rw [Consumer.afterRemove, QueueFault.locked, afterFault_poisoned]
    by_cases more : refusals + 1 < c.policy.attempts
    · rw [if_pos more]
      exact ⟨rfl, .inl ⟨more, rfl⟩⟩
    · rw [if_neg more]
      exact ⟨rfl, .inr ⟨by omega, rfl⟩⟩
  · simp [phase] at ended

end Consumer

namespace World

variable [QueueItem α] [Sink σ α] {w next last : World σ α} {event : Event} {events : List Event}
  {index : Nat} {thread : Thread α}

/-- What stays true of a thread after a number of its turns, and of the calls that it has made in
them, if all of them are refused at the lock. It has nothing in hand for a sink. -/
structure Doom (holds : Nat → List (Call α) → Task α → Prop) : Prop where
  refused {made : Nat} {calls : List (Call α)} {task : Task α} {call : Call α} :
    holds made calls task → task.call? = some call →
      holds (made + 1) (calls ++ [call]) (task.resume (.refused .locked)).1
  draws {made : Nat} {calls : List (Call α)} {p : Producer α} :
    holds made calls (.producer p) → p.phase = .drawing →
      holds (made + 1) calls (.producer p.draw.1)
  handless {made : Nat} {calls : List (Call α)} {c : Consumer α} {item : α} :
    holds made calls (.consumer c) → c.phase ≠ .delivering item

variable {holds : Nat → List (Call α) → Task α → Prop} {made : Nat} {calls : List (Call α)}

/-- A thread that is ready at a poisoned queue does not park: when its turn comes, its call is
refused at the lock, or it draws. -/
private theorem Doom.of_next? (doom : Doom holds) (poisoned : w.queue.poisoned = true)
    (happens : w.next? event = some next) (here : w.threads[index]? = some thread)
    (ready : thread.standing = .ready) (start : holds made calls thread.task) :
    Delivery.by index (w.delivery? event).toList = [] ∧
      ∃ after, next.threads[index]? = some after ∧ after.standing = .ready ∧
        holds (made + if event.place = index then 1 else 0)
          (calls ++ Visit.callsBy index (w.visit? event).toList) after.task := by
  refine ⟨List.filter_eq_nil_iff.mpr fun delivery delivers same => ?_, ?_⟩
  · obtain ⟨_, _, c, item, there, task, phase⟩ :=
      consumer_of_delivery? (Option.mem_toList.mp delivers)
    cases here.symm.trans (beq_iff_eq.mp same ▸ there)
    exact doom.handless (task ▸ start) phase
  by_cases own : event.place = index
  · rw [if_pos own]
    cases turn_of_next? happens here ready own with
    | @calls call outcome calls made visited after =>
      have same : outcome = w.queue.refuse .locked :=
        made.elim (·.trans (SharedQueue.perform_lock_of_poisoned poisoned call))
          (·.trans (SharedQueue.insertShort_of_poisoned poisoned))
      subst same
      have ownCall : Visit.callsBy index (w.visit? event).toList = [call] := by
        simp [visited, Visit.callsBy]
      rw [ownCall]
      exact ⟨_, after, standing_after _ _, doom.refused start calls⟩
    | draws task phase silent after =>
      rw [silent, Option.toList_none, Visit.callsBy_nil, List.append_nil]
      exact ⟨_, after, ready, doom.draws (task ▸ start) phase⟩
    | delivers task phase => exact (doom.handless (task ▸ start) phase).elim
  · have others : Visit.callsBy index (w.visit? event).toList = [] := by
      refine List.map_eq_nil_iff.mpr (List.filter_eq_nil_iff.mpr fun seen visited same => ?_)
      exact own ((index_of_visit? (Option.mem_toList.mp visited)).symm.trans (beq_iff_eq.mp same))
    rw [if_neg own, others, List.append_nil]
    exact ⟨thread, bystander_of_next? happens here ready own, ready, start⟩

/-- So what becomes of it does not depend on the others. -/
private theorem Doom.of_replay? (doom : Doom holds) (made : Nat) (calls : List (Call α))
    (poisoned : w.queue.poisoned = true) (replayed : w.replay? events = some last)
    (here : w.threads[index]? = some thread) (ready : thread.standing = .ready)
    (start : holds made calls thread.task) :
    Delivery.by index (w.deliveries events) = [] ∧
      ∃ later, last.threads[index]? = some later ∧ later.standing = .ready ∧
        holds (made + turns index events)
          (calls ++ Visit.callsBy index (w.visits events)) later.task := by
  induction events generalizing w made calls thread with
  | nil =>
    cases replayed
    exact ⟨rfl, thread, here, ready, by simpa [turns, visits] using start⟩
  | cons event rest ih =>
    obtain ⟨next, happens, later⟩ := Option.bind_eq_some_iff.mp replayed
    have stillPoisoned := (refused_of_next? poisoned happens).1 ▸ poisoned
    obtain ⟨idle, after, there, stillReady, held⟩ := doom.of_next? poisoned happens here ready start
    have rests := ih _ _ stillPoisoned later there stillReady held
    rw [visits_cons happens, deliveries_cons happens, Visit.callsBy_append, turns_cons,
      Delivery.by, List.filter_append, ← Delivery.by, idle, List.nil_append, ← List.append_assoc,
      Nat.add_comm (turns index rest), ← Nat.add_assoc]
    exact rests

omit [Sink σ α] in
private theorem doom_producer (bound : Nat) : Doom fun made (_ : List (Call α)) task =>
    ∃ p : Producer α, task = .producer p ∧ p.Doomed ∧ made + p.toGo ≤ bound where
  refused := by
    rintro made _ _ call ⟨p, rfl, doomed, toGo⟩ calls
    obtain ⟨stillDoomed, fewer⟩ := doomed.resume calls
    exact ⟨(p.resume (.refused .locked)).1, rfl, stillDoomed, by omega⟩
  draws := by
    rintro made _ p ⟨_, same, doomed, toGo⟩ phase
    cases same
    obtain ⟨stillDoomed, fewer⟩ := doomed.draw phase
    exact ⟨_, rfl, stillDoomed, by omega⟩
  handless := by
    rintro _ _ _ _ ⟨_, same, _⟩
    cases same

omit [Sink σ α] in
private theorem doom_consumer (policy : RetryPolicy) : Doom fun made (calls : List (Call α)) task =>
    ∃ c : Consumer α, task = .consumer c ∧ c.Doomed policy made ∧
      calls = List.replicate made .remove where
  refused := by
    rintro made _ _ call ⟨c, rfl, doomed, rfl⟩ calls
    obtain ⟨rfl, failures, phase, answered⟩ := Task.removing_of_call? calls
    exact ⟨_, answered _, doomed.afterRemove phase, List.replicate_succ'.symm⟩
  draws := by
    rintro _ _ _ ⟨_, same, _⟩
    cases same
  handless := by
    rintro _ _ _ _ ⟨_, same, doomed, _⟩ phase
    cases same
    obtain ⟨_, other⟩ | ⟨_, other⟩ := doomed.phase <;> simp [phase] at other

/-- A producer that is doomed takes no more turns than it has to go, and ends for the lock. -/
theorem producer_of_poisoned {p : Producer α} (poisoned : w.queue.poisoned = true)
    (replayed : w.replay? events = some last) (here : w.threads[index]? = some thread)
    (ready : thread.standing = .ready) (task : thread.task = .producer p) (doomed : p.Doomed) :
    turns index events ≤ p.toGo ∧ (last.canStep index = true ∨ ∃ p,
      last.tasks[index]? = some (.producer p) ∧ p.ending? = some (.failed .locked)) := by
  obtain ⟨_, later, there, stillReady, after, same, stillDoomed, toGo⟩ :=
    (doom_producer p.toGo).of_replay? 0 [] poisoned replayed here ready
      ⟨p, task, doomed, by omega⟩
  refine ⟨by omega, ?_⟩
  cases phase : after.phase with
  | ended ending =>
    obtain rfl := stillDoomed.ended ending phase
    refine .inr ⟨after, getElem?_tasks.mpr ⟨later, there, same⟩, ?_⟩
    rw [Producer.ending?, phase]
  | _ =>
    rw [canStep_of_ready there stillReady, same, Task.hasEnded, Producer.ending?, phase]
    exact .inl rfl

/-- A consumer that starts at a poisoned queue tries to remove as often as its policy says, writes
nothing, and gives up. -/
theorem consumer_of_poisoned {name : String} {policy : RetryPolicy}
    (poisoned : w.queue.poisoned = true) (replayed : w.replay? events = some last)
    (here : w.threads[index]? = some thread) (ready : thread.standing = .ready)
    (task : thread.task = .consumer (.start name policy)) :
    Visit.callsBy index (w.visits events) = List.replicate (turns index events) .remove ∧
    Delivery.by index (w.deliveries events) = [] ∧
    (turns index events < policy.attempts ∧ last.canStep index = true ∨
      turns index events = policy.attempts ∧ ∃ c, last.tasks[index]? = some (.consumer c) ∧
        c.ending? = some (.failed (.exhausted policy.attempts .locked))) := by
  obtain ⟨nothing, later, there, stillReady, after, same, doomed, calls⟩ :=
    (doom_consumer policy).of_replay? 0 [] poisoned replayed here ready
      ⟨_, task, Consumer.doomed_start name policy, rfl⟩
  rw [Nat.zero_add] at doomed calls
  refine ⟨calls, nothing, doomed.phase.imp ?_ ?_⟩
  · rintro ⟨few, phase⟩
    refine ⟨few, ?_⟩
    rw [canStep_of_ready there stillReady, same, Task.hasEnded, Consumer.ending?, phase]
    rfl
  · rintro ⟨all, phase⟩
    exact ⟨all, after, getElem?_tasks.mpr ⟨later, there, same⟩, Consumer.ending?_of_ended phase⟩

/-- What comes of a queue that is poisoned, and of producers and consumers that begin then. -/
structure Aftermath (w : World σ α) (events : List Event) (last : World σ α) : Prop where
  queue : last.queue = w.queue
  refused : ∀ seen ∈ w.visits events,
    ∃ met : Monitor.Fault, seen.reply = some (.refused (.poisoned met.message))
  /-- Nor does anybody else get through who makes a call. -/
  interjected : ∀ name call, last.interject name call = (some (.refused .locked), last)
  inserted : Visit.inserted (w.visits events) = []
  producer : ∀ index name source termination consumers,
    w.threads[index]? =
      some { name, task := .producer { source, termination, consumers } } →
    (∀ item, .item item ∈ source → QueueItem.inspect item ≠ .panicked) →
    termination = .close ∨ 1 ≤ consumers →
    turns index events ≤ 2 * source.length + 3 ∧ (last.canStep index = true ∨ ∃ p,
      last.tasks[index]? = some (.producer p) ∧ p.ending? = some (.failed .locked))
  consumer : ∀ index name policy,
    w.threads[index]? = some { name, task := .consumer (.start name policy) } →
    Visit.callsBy index (w.visits events) = List.replicate (turns index events) .remove ∧
    Delivery.by index (w.deliveries events) = [] ∧
    (turns index events < max policy.maxAttempts 1 ∧ last.canStep index = true ∨
      turns index events = max policy.maxAttempts 1 ∧ ∃ c,
        last.tasks[index]? = some (.consumer c) ∧
        c.ending? = some (.failed (.exhausted (max policy.maxAttempts 1) .locked)))

theorem aftermath (poisoned : w.queue.poisoned = true)
    (replayed : w.replay? events = some last) : Aftermath w events last := by
  obtain ⟨queue, refused⟩ := refused_of_replay? poisoned replayed
  refine ⟨queue, refused, fun name call => ?_, ?_, ?_, ?_⟩
  · rw [interject, SharedQueue.perform_lock_of_poisoned (queue ▸ poisoned)]
    simp [SharedQueue.refuse, SharedQueue.answer, QueueFault.locked]
  · refine List.filterMap_eq_nil_iff.mpr fun seen listed => ?_
    obtain ⟨met, reply⟩ := refused seen listed
    rw [Visit.inserted?, reply]
  · intro index name source termination consumers here calm signals
    exact producer_of_poisoned poisoned replayed here rfl rfl ⟨calm, signals, by simp⟩
  · intro index name policy here
    exact consumer_of_poisoned poisoned replayed here rfl rfl

/-- Marker checks that panic are those of removals and of looks at the head, whose item stays at the
head of a queue that is as it was, but poisoned. A poisoned queue, whatever it holds, stays as it is
for ever and refuses whatever is called. Who begins to produce then inserts nothing, and if there is
anything to signal, ends for the lock; who begins to consume tries to remove as often as the policy
says, writes nothing, and gives up. -/
theorem poison_is_for_good (w : World σ α) :
    (∀ event next seen, w.next? event = some next → w.visit? event = some seen →
      seen.reply = some .panicked →
      (seen.call = .remove ∨ seen.call = .peekMarker) ∧
      (∃ head rest, QueueItem.inspect head = .panicked ∧ w.queue.list = head :: rest) ∧
      next.queue = ⟨w.queue.value, true⟩) ∧
    (w.queue.poisoned = true → ∀ events last, w.replay? events = some last →
      Aftermath w events last) := by
  refine ⟨fun event next seen happens visited panics => ?_,
    fun poisoned events last replayed => aftermath poisoned replayed⟩
  have move := move_of_next? happens
  rw [visited] at move
  obtain ⟨absent, _⟩ | ⟨_, _, _, _, same, effect⟩ := move.effect
  · cases absent
  · cases same
    cases panics
    cases effect with
    | panicked _ checks checked items poisons => exact ⟨checks, ⟨_, _, checked, items⟩, poisons⟩

/-- A thread that looks at the head, whose check panics, a producer with one reading, and a consumer
that tries twice. -/
private def tripping : World Scenario.RuledSink Scenario.FusedReading where
  queue := ⟨{ items := .ofList [⟨⟨7, ⟨0⟩, 0⟩, some 1⟩, ⟨⟨8, ⟨0⟩, 0⟩, none⟩] }, false⟩
  sink := ⟨{}, false⟩
  threads :=
    [{ name := "observer", task := .caller [.peekMarker] [] },
      { name := "producer"
        task := .producer
          { source := [.item ⟨⟨9, ⟨0⟩, 0⟩, none⟩], termination := .sentinel, consumers := 1 } },
      { name := "consumer"
        task := .consumer (.start "consumer" { RetryPolicy.standard with maxAttempts := 2 }) }]

private def tripped : World Scenario.RuledSink Scenario.FusedReading :=
  (tripping.next? (.step 0 0)).get (by decide)

/-- Five turns of the producer, and two of the consumer in between. -/
private def dooming : List Event :=
  [.step 1 0, .step 2 0, .step 1 0, .step 1 0, .step 2 0, .step 1 0, .step 1 0]

private def doomed : World Scenario.RuledSink Scenario.FusedReading :=
  (tripped.replay? dooming).get (by decide)

/-- Both end for the lock. -/
theorem poison_is_for_good_tripped :
    tripping.visit? (.step 0 0) = some ⟨0, .peekMarker, some .panicked⟩ ∧
      tripped.queue = ⟨tripping.queue.value, true⟩ ∧ doomed.queue = tripped.queue ∧
      (∃ p, doomed.tasks[1]? = some (.producer p) ∧ p.ending? = some (.failed .locked)) ∧
      Visit.callsBy 2 (tripped.visits dooming) = [.remove, .remove] ∧
      ∃ c, doomed.tasks[2]? = some (.consumer c) ∧
        c.ending? = some (.failed (.exhausted 2 .locked)) := by
  have trips : tripping.next? (.step 0 0) = some tripped := (Option.some_get _).symm
  have visited : tripping.visit? (.step 0 0) = some ⟨0, .peekMarker, some .panicked⟩ := by decide
  have replayed : tripped.replay? dooming = some doomed := (Option.some_get _).symm
  obtain ⟨_, _, poisoned⟩ := (poison_is_for_good tripping).1 _ _ _ trips visited rfl
  have after := (poison_is_for_good tripped).2 (by rw [poisoned]) dooming doomed replayed
  obtain ⟨_, producer⟩ := after.producer 1 "producer" _ _ _ rfl
    (by simp [QueueItem.inspect, Scenario.FusedReading.inspect]) (.inr (by decide))
  obtain ⟨calls, _, consumer⟩ := after.consumer 2 "consumer" _ rfl
  have turnsOfConsumer : turns 2 dooming = 2 := by decide
  rw [turnsOfConsumer] at calls consumer
  exact ⟨visited, poisoned, after.queue, producer.resolve_left (by decide), calls,
    (consumer.resolve_left (by decide)).2⟩

end World

end SensorRelay
