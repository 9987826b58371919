import SensorRelay.Proofs.World.Standing
import SensorRelay.Scenario.Waiters

/-! # Poisoned queues

A poisoned lock refuses every call before it can notify anybody. So whoever is parked when a marker
check panics can count only on the notifications that are owed at that moment: one of all, or one
for each of them (`Awaited`). No call that comes later makes a difference.
-/

namespace SensorRelay.World

variable {σ α : Type}

/-- Everybody who is parked will be woken: somebody owes a notification of all, or as many as are
parked owe one of one. -/
def Awaited (w : World σ α) : Prop :=
  0 < w.tally (.owing .all) ∨ w.tally .parked ≤ w.tally (.owing .one)

instance (w : World σ α) : Decidable w.Awaited := inferInstanceAs (Decidable (_ ∨ _))

theorem Awaited.congr {w next : World σ α} (parked : next.tally .parked = w.tally .parked)
    (owing : ∀ signal, next.tally (.owing signal) = w.tally (.owing signal)) :
    next.Awaited ↔ w.Awaited := by
  rw [Awaited, Awaited, parked, owing, owing]

/-- Once nobody owes a notification, everybody who is parked will be woken only if nobody is. -/
theorem awaited_iff_of_quiet {w : World σ α} (quiet : ∀ signal, w.tally (.owing signal) = 0) :
    w.Awaited ↔ w.parked = [] := by
  rw [Awaited, quiet, quiet, ← length_parked, ← List.length_eq_zero_iff]
  omega

/-- A notification that is issued wakes as many as it was to wake. -/
private theorem awaited_notify {w middle : World σ α} {index : Nat} {thread : Thread α}
    {signal : Signal} (here : w.threads[index]? = some thread)
    (owes : thread.standing = .owing signal)
    (threads : middle.threads = w.threads.set index { thread with standing := .ready })
    (choice : Nat) : (middle.notify signal choice).Awaited ↔ w.Awaited := by
  have parked := tally_visits here threads .parked
  have one := tally_visits here threads (.owing .one)
  have all := tally_visits here threads (.owing .all)
  rw [owes] at parked one all
  cases signal with
  | all =>
    have nobody : (middle.notify .all choice).tally .parked = 0 := by
      rw [tally, (notify_all middle choice).2.2, countP_rouse]
    simp at all
    rw [Awaited, Awaited, nobody]
    omega
  | one =>
    simp at parked one all
    obtain ⟨nobody, same⟩ | ⟨other, sleeper, there, asleep, same⟩ := notify_one middle choice
    · rw [← List.length_eq_zero_iff, length_parked] at nobody
      rw [same, Awaited, Awaited]
      omega
    · have woken := tally_visits there (congrArg World.threads same)
      have parkedAfter := woken .parked
      have oneAfter := woken (.owing .one)
      have allAfter := woken (.owing .all)
      simp [asleep] at parkedAfter oneAfter allAfter
      rw [Awaited, Awaited]
      omega

/-- A thread that is awake, and stays awake without owing a notification, makes no difference. -/
private theorem awaited_set {w next : World σ α} {index : Nat} {old new : Thread α}
    (here : w.threads[index]? = some old) (awake : old.standing = .ready ∨ old.standing = .woken)
    (threads : next.threads = w.threads.set index new) (ready : new.standing = .ready) :
    next.Awaited ↔ w.Awaited := by
  refine Awaited.congr ?_ fun signal => ?_
  · have shift := tally_visits here threads .parked
    obtain standing | standing := awake <;> simpa [ready, standing] using shift
  · have shift := tally_visits here threads (.owing signal)
    obtain standing | standing := awake <;> simpa [ready, standing] using shift

variable [QueueItem α] [Sink σ α]

omit [QueueItem α] [Sink σ α] in
/-- Who is refused goes on without a notification. -/
private theorem awaited_leave {w : World σ α} {index : Nat} {thread : Thread α}
    {fault : QueueFault} (here : w.threads[index]? = some thread)
    (awake : thread.standing = .ready ∨ thread.standing = .woken) :
    (w.leave index thread (w.queue.refuse fault)).Awaited ↔ w.Awaited := by
  have ready : (thread.after (w.queue.refuse fault)).1.standing = .ready := standing_after _ _
  exact awaited_set here awake rfl ready

/-- At a poisoned queue no event changes who can count on being woken, unless somebody wakes up for
no reason. -/
theorem awaited_of_next? {w next : World σ α} {event : Event} (poisoned : w.queue.poisoned = true)
    (happens : w.next? event = some next) (prompted : ∀ index, event ≠ .spurious index) :
    next.Awaited ↔ w.Awaited := by
  cases cause_of_next? happens with
  | @calls index _ thread call place here awake _ same =>
    obtain ⟨met, refused⟩ := SharedQueue.perform_of_poisoned poisoned place call
    rw [same, makeCall, refused]
    exact awaited_leave here (awake.imp And.left And.left)
  | notifies here owes same => exact same ▸ awaited_notify here owes rfl _
  | draws here ready _ _ same => exact same ▸ awaited_set here (.inl ready) rfl ready
  | delivers here ready _ _ same => exact same ▸ awaited_set here (.inl ready) rfl ready
  | idles _ _ _ same => rw [same]
  | wakes => exact (prompted _ rfl).elim
  | lacks here ready _ _ same =>
    rw [same, SharedQueue.insertShort_of_poisoned poisoned]
    exact awaited_leave here (.inl ready)

/-- A poisoned queue stays as it is, and refuses whatever is called. -/
theorem refused_of_next? {w next : World σ α} {event : Event} (poisoned : w.queue.poisoned = true)
    (happens : w.next? event = some next) :
    next.queue = w.queue ∧ ∀ seen, w.visit? event = some seen →
      ∃ met : Monitor.Fault, seen.reply = some (.refused (.poisoned met.message)) := by
  cases visited : w.visit? event with
  | none =>
    have move := move_of_next? happens
    rw [visited] at move
    obtain ⟨_, same⟩ | ⟨_, _, _, _, absent, _⟩ := move.effect
    · exact ⟨same, nofun⟩
    · cases absent
  | some seen =>
    obtain ⟨outcome, queue, reply, ⟨place, rfl⟩ | ⟨_, rfl⟩⟩ := outcome_of_visit? happens visited
    · obtain ⟨met, refused⟩ := SharedQueue.perform_of_poisoned poisoned place seen.call
      rw [refused] at queue reply
      refine ⟨queue, ?_⟩
      rintro _ ⟨⟩
      exact ⟨met, reply⟩
    · rw [SharedQueue.insertShort_of_poisoned poisoned] at queue reply
      refine ⟨queue, ?_⟩
      rintro _ ⟨⟩
      exact ⟨.lock, reply⟩

/-- So it does in a whole run. -/
theorem refused_of_replay? {w last : World σ α} {events : List Event}
    (poisoned : w.queue.poisoned = true) (replayed : w.replay? events = some last) :
    last.queue = w.queue ∧ ∀ seen ∈ w.visits events,
      ∃ met : Monitor.Fault, seen.reply = some (.refused (.poisoned met.message)) := by
  induction events generalizing w with
  | nil =>
    cases replayed
    exact ⟨rfl, nofun⟩
  | cons event rest ih =>
    obtain ⟨next, happens, later⟩ := Option.bind_eq_some_iff.mp replayed
    obtain ⟨queue, refused⟩ := refused_of_next? poisoned happens
    obtain ⟨queueLater, refusedLater⟩ := ih (queue ▸ poisoned) later
    refine ⟨queueLater.trans queue, fun seen listed => ?_⟩
    rw [visits_cons happens, List.mem_append, Option.mem_toList] at listed
    exact listed.elim (refused seen) (refusedLater seen)

/-- A whole run at a poisoned queue does not change who can count on being woken. -/
theorem awaited_of_replay? {w last : World σ α} {events : List Event}
    (poisoned : w.queue.poisoned = true) (replayed : w.replay? events = some last)
    (prompted : ∀ index, .spurious index ∉ events) : last.Awaited ↔ w.Awaited := by
  induction events generalizing w with
  | nil =>
    cases replayed
    rfl
  | cons event rest ih =>
    obtain ⟨next, happens, later⟩ := Option.bind_eq_some_iff.mp replayed
    have here : next.Awaited ↔ w.Awaited := awaited_of_next? poisoned happens fun index same =>
      prompted index (same ▸ List.mem_cons_self)
    have stillPoisoned := (refused_of_next? poisoned happens).1 ▸ poisoned
    exact (ih stillPoisoned later fun index listed =>
      prompted index (List.mem_cons_of_mem _ listed)).trans here

omit [Sink σ α] in
/-- Somebody else who makes a call changes nothing. -/
theorem interject_of_poisoned {w : World σ α} (poisoned : w.queue.poisoned = true)
    (name : String) (call : Call α) : (w.interject name call).2 = w := by
  obtain ⟨met, refused⟩ := SharedQueue.perform_of_poisoned poisoned .lock call
  simp [interject, refused, SharedQueue.refuse, SharedQueue.answer]

/-- From a poisoned queue on, as long as nobody wakes up for no reason: whatever is called is
refused, be it `close`, `destroy` or an insertion, and the threads that are parked will be woken
exactly if they would have been without it. So once no notification is owed any more, nobody is left
parked exactly if at the panic somebody owed a notification of all, or as many as were parked owed
one of one. -/
theorem released_iff_awaited {w last : World σ α} {events : List Event}
    (poisoned : w.queue.poisoned = true) (replayed : w.replay? events = some last)
    (prompted : ∀ index, .spurious index ∉ events) :
    (last.Awaited ↔ w.Awaited) ∧
    ((∀ signal, last.tally (.owing signal) = 0) → (last.parked = [] ↔ w.Awaited)) ∧
    (∀ seen ∈ w.visits events,
      ∃ met : Monitor.Fault, seen.reply = some (.refused (.poisoned met.message))) ∧
    ∀ name call, (last.interject name call).2 = last := by
  have awaited := awaited_of_replay? poisoned replayed prompted
  obtain ⟨queue, refused⟩ := refused_of_replay? poisoned replayed
  refine ⟨awaited, fun quiet => ?_, refused, interject_of_poisoned (queue ▸ poisoned)⟩
  rw [← awaited, awaited_iff_of_quiet quiet]

/-- Two removers, a thread that inserts a reading whose first check panics, one that looks for the
marker, and one that closes the queue. -/
private def panicking : World Scenario.RuledSink Scenario.FusedReading where
  queue := .empty
  sink := ⟨{}, false⟩
  threads :=
    [{ name := "first remover", task := .caller [.remove] [] },
      { name := "second remover", task := .caller [.remove] [] },
      { name := "inserter", task := .caller [.insert ⟨⟨7, ⟨0x3ff0000000000000⟩, 5⟩, some 1⟩] [] },
      { name := "observer", task := .caller [.peekMarker] [] },
      { name := "closer", task := .caller [.close] [] }]

/-- Both removers park, and the inserter owes a notification. -/
private def laden : World Scenario.RuledSink Scenario.FusedReading :=
  (panicking.replay? [.step 0 0, .step 1 0, .step 2 0]).get (by decide)

private def panicked : World Scenario.RuledSink Scenario.FusedReading :=
  (laden.next? (.step 3 0)).get (by decide)

/-- The inserter wakes the first remover, who is refused. -/
private def informed : World Scenario.RuledSink Scenario.FusedReading :=
  (panicked.replay? [.step 2 0, .step 0 0]).get (by decide)

private def refused : World Scenario.RuledSink Scenario.FusedReading :=
  (informed.next? (.step 4 0)).get (by decide)

/-- One notification is not enough for two removers. -/
theorem released_iff_awaited_panicked :
    panicked.queue.poisoned = true ∧ panicked.tally .parked = 2 ∧
      panicked.tally (.owing .one) = 1 ∧ ¬ refused.Awaited ∧ refused.parked ≠ [] ∧
      (refused.interject "" .destroy).2 = refused := by
  have poisoned : panicked.queue.poisoned = true := by decide
  have closes : informed.next? (.step 4 0) = some refused := (Option.some_get _).symm
  have replayed : panicked.replay? [.step 2 0, .step 0 0, .step 4 0] = some refused := closes
  have quiet : ∀ signal, refused.tally (.owing signal) = 0 := by rintro (_ | _) <;> decide
  obtain ⟨awaited, released, _, nobody⟩ :=
    released_iff_awaited poisoned replayed (by simp)
  have few : ¬ panicked.Awaited := by decide
  exact ⟨poisoned, by decide, by decide, mt awaited.mp few, mt (released quiet).mp few,
    nobody "" .destroy⟩

/-- A look at the head panics and poisons the queue. After that the queue was to be closed, but the
second remover is still parked, and nobody owes a notification. -/
theorem closing_releases_nobody :
    panicking.replay? [.step 0 0, .step 1 0, .step 2 0] = some laden ∧
      laden.next? (.step 3 0) = some panicked ∧
      laden.visit? (.step 3 0) = some ⟨3, .peekMarker, some .panicked⟩ ∧
      panicked.queue.poisoned = true ∧
      panicked.replay? [.step 2 0, .step 0 0] = some informed ∧
      informed.next? (.step 4 0) = some refused ∧
      informed.visit? (.step 4 0) =
        some ⟨4, .close, some (.refused (.poisoned Monitor.Fault.lock.message))⟩ ∧
      refused.parked = [1] ∧ ¬ refused.Awaited := by
  refine ⟨(Option.some_get _).symm, (Option.some_get _).symm, by decide, by decide,
    (Option.some_get _).symm, (Option.some_get _).symm, by decide, by decide, by decide⟩

example : none ∈ (Scenario.Waiters.run 2
    [.insert ⟨⟨7, ⟨0x3ff0000000000000⟩, 5⟩, some 1⟩, .peekMarker, .close]).results := by decide

end SensorRelay.World
