import SensorRelay.Proofs.World.Panic
import SensorRelay.Proofs.World.Supply

/-! # What the outcome of a consumer means

A consumer tries a removal again only if the queue was poisoned, and then it is poisoned for good:
every further attempt is refused, until the policy allows no more of them
(`refusedInARow_of_poisoned`). So a consumer that has not been refused yet either goes on without a
failed removal, or its next failure is the first of a row that ends it (`outcome_of_replay?`). A
fault that was not tried again comes from the sink, or from a queue that was destroyed.
-/

namespace SensorRelay

variable {σ α : Type}

namespace Visit

/-- The fault with which a call was refused. -/
def fault? (visit : Visit α) : Option QueueFault :=
  match visit.reply with
  | some (.refused fault) => some fault
  | _ => none

/-- The faults with which the calls of the thread at a place were refused, in order. -/
def faultsBy (index : Nat) (visits : List (Visit α)) : List QueueFault :=
  (Visit.by index visits).filterMap fault?

@[simp] theorem faultsBy_nil (index : Nat) : faultsBy index ([] : List (Visit α)) = [] := rfl

@[simp] theorem faultsBy_append (index : Nat) (earlier later : List (Visit α)) :
    faultsBy index (earlier ++ later) = faultsBy index earlier ++ faultsBy index later := by
  rw [faultsBy, by_append, List.filterMap_append]
  rfl

theorem faultsBy_singleton (index : Nat) (call : Call α) (reply : Option (Reply α)) :
    faultsBy index [⟨index, call, reply⟩] = (fault? ⟨index, call, reply⟩).toList := by
  rw [faultsBy, by_singleton_self (α := α) ⟨index, call, reply⟩, List.filterMap_cons]
  cases fault? ⟨index, call, reply⟩ <;> rfl

/-- A removal of the thread at a place that was refused. -/
def refusal (index : Nat) (fault : QueueFault) : Visit α := ⟨index, .remove, some (.refused fault)⟩

end Visit

namespace Consumer

/-- A consumer that was refused at a destroyed queue ends at once. -/
theorem afterFault_destroyed (c : Consumer α) (failures : Nat) :
    (c.afterFault failures .destroyed).1 =
      { c with
        report := { c.report with removeFailures := c.report.removeFailures + 1 }
        phase := .ended (.failed .destroyed) } := by
  have decision : c.policy.next? failures QueueFault.destroyed.isRetryable = none :=
    RetryPolicy.next?_eq_none_iff.mpr (.inl rfl)
  simp only [afterFault, decision]
  rfl

end Consumer

namespace World

open Visit (faultsBy refusal)

variable [QueueItem α] [Sink σ α] {first w next last : World σ α} {event : Event}
  {events rest : List Event} {index failures : Nat} {policy : RetryPolicy} {c after : Consumer α}

omit [Sink σ α] in
/-- Nobody is refused who is not answered. -/
private theorem faultsBy_of_silent
    (silent : ∀ seen, w.visit? event = some seen → seen.index = index → seen.reply = none) :
    faultsBy index (w.visit? event).toList = [] := by
  refine List.filterMap_eq_nil_iff.mpr fun seen listed => ?_
  obtain ⟨visited, own⟩ := List.mem_filter.mp listed
  rw [Visit.fault?, silent seen (Option.mem_toList.mp visited) (beq_iff_eq.mp own)]

/-- A consumer that has ended stays as it is. -/
theorem ended_of_replay? {ending : Ending ConsumerReport}
    (replayed : w.replay? events = some last) (here : w.tasks[index]? = some (.consumer c))
    (ended : c.phase = .ended ending) :
    last.tasks[index]? = some (.consumer c) ∧ faultsBy index (w.visits events) = [] ∧
      Delivery.by index (w.deliveries events) = [] := by
  induction events generalizing w with
  | nil =>
    cases replayed
    exact ⟨here, rfl, rfl⟩
  | cons event rest ih =>
    obtain ⟨next, happens, later⟩ := Option.bind_eq_some_iff.mp replayed
    obtain ⟨after, there, part⟩ := part_of_next? happens here
    rw [visits_cons happens, deliveries_cons happens, Visit.faultsBy_append, Delivery.by_append]
    cases part with
    | rests silent spared =>
      rw [faultsBy_of_silent silent, by_of_spared spared]
      exact ih later there
    | answered phase => simp [ended] at phase
    | delivers phase => simp [ended] at phase

/-- A consumer was refused at a poisoned queue with some faults, one after the other. -/
structure Refusals (w : World σ α) (index : Nat) (events : List Event) (faults : List QueueFault) :
    Prop where
  visits : Visit.by index (w.visits events) = faults.map (refusal index)
  poisoned : ∀ fault ∈ faults, ∃ text, fault = .poisoned text
  undelivered : Delivery.by index (w.deliveries events) = []

namespace Refusals

variable {faults : List QueueFault}

/-- At a poisoned queue there is nothing else to be seen of who makes no call. -/
theorem of_rests (poisoned : w.queue.poisoned = true) (happens : w.next? event = some next)
    (silent : ∀ seen, w.visit? event = some seen → seen.index = index → seen.reply = none)
    (spared : ∀ delivery, w.delivery? event = some delivery → delivery.index ≠ index)
    (later : Refusals next index rest faults) : Refusals w index (event :: rest) faults where
  visits := by
    have nothing : Visit.by index (w.visit? event).toList = [] := by
      refine List.filter_eq_nil_iff.mpr fun seen listed own => ?_
      have visited := Option.mem_toList.mp listed
      obtain ⟨met, refused⟩ := (refused_of_next? poisoned happens).2 seen visited
      rw [silent seen visited (beq_iff_eq.mp own)] at refused
      cases refused
    rw [visits_cons happens, Visit.by_append, nothing, List.nil_append]
    exact later.visits
  poisoned := later.poisoned
  undelivered := by
    rw [deliveries_cons happens, Delivery.by_append, by_of_spared spared]
    exact later.undelivered

theorem cons {text : String} (happens : w.next? event = some next)
    (visited : w.visit? event = some (refusal index (.poisoned text)))
    (silent : w.delivery? event = none) (later : Refusals next index rest faults) :
    Refusals w index (event :: rest) (.poisoned text :: faults) where
  visits := by
    rw [visits_cons happens, Visit.by_append, visited, later.visits, Option.toList_some]
    exact congrArg (· ++ _) (Visit.by_singleton_self (refusal index (.poisoned text)))
  poisoned := List.forall_mem_cons.mpr ⟨⟨text, rfl⟩, later.poisoned⟩
  undelivered := by
    rw [deliveries_cons happens, Delivery.by_append, silent]
    exact later.undelivered

theorem of_ended {ending : Ending ConsumerReport} (poisoned : w.queue.poisoned = true)
    (replayed : w.replay? events = some last) (here : w.tasks[index]? = some (.consumer c))
    (ended : c.phase = .ended ending) : Refusals w index events [] where
  visits := by
    obtain ⟨_, faults, _⟩ := ended_of_replay? replayed here ended
    refine List.filter_eq_nil_iff.mpr fun seen listed own => ?_
    obtain ⟨met, refused⟩ := (refused_of_replay? poisoned replayed).2 seen listed
    have known := List.filterMap_eq_nil_iff.mp faults seen (List.mem_filter.mpr ⟨listed, own⟩)
    rw [Visit.fault?, refused] at known
    cases known
  poisoned := nofun
  undelivered := (ended_of_replay? replayed here ended).2.2

end Refusals

/-- A consumer that removes from a poisoned queue is refused until its policy allows no more
attempts. -/
theorem refusals_of_poisoned (poisoned : w.queue.poisoned = true)
    (replayed : w.replay? events = some last) (here : w.tasks[index]? = some (.consumer c))
    (phase : c.phase = .removing failures) (few : failures < c.policy.attempts) :
    ∃ faults after, last.tasks[index]? = some (.consumer after) ∧
      Refusals w index events faults ∧
      after.report.removeFailures = c.report.removeFailures + faults.length ∧
      (after.phase = .removing (failures + faults.length) ∨
        failures + faults.length = c.policy.attempts ∧ ∃ fault, faults.getLast? = some fault ∧
          after.phase = .ended (.failed (.exhausted c.policy.attempts fault))) := by
  induction events generalizing w c failures with
  | nil =>
    cases replayed
    exact ⟨[], c, here, ⟨rfl, nofun, rfl⟩, rfl, .inl phase⟩
  | cons event rest ih =>
    obtain ⟨next, happens, later⟩ := Option.bind_eq_some_iff.mp replayed
    obtain ⟨queue, refused⟩ := refused_of_next? poisoned happens
    have stillPoisoned := queue ▸ poisoned
    obtain ⟨after, there, part⟩ := part_of_next? happens here
    cases part with
    | rests silent spared =>
      obtain ⟨faults, final, atEnd, refusals, counted, ends⟩ := ih stillPoisoned later there phase few
      exact ⟨faults, final, atEnd, refusals.of_rests poisoned happens silent spared, counted, ends⟩
    | @answered _ reply _ removing visited silent =>
      cases phase.symm.trans removing
      obtain ⟨met, same⟩ := refused _ visited
      obtain rfl : reply = .refused (.poisoned met.message) := Option.some_inj.mp same
      rw [Consumer.afterRemove, c.afterFault_poisoned failures met.message] at there
      by_cases more : failures + 1 < c.policy.attempts
      · rw [if_pos more] at there
        obtain ⟨faults, final, atEnd, refusals, counted, ends⟩ :=
          ih stillPoisoned later there rfl more
        dsimp only at counted ends
        have count : failures + 1 + faults.length =
            failures + (.poisoned met.message :: faults).length := by
          rw [List.length_cons]
          omega
        refine ⟨_, final, atEnd, refusals.cons happens visited silent, ?_, ?_⟩
        · rw [counted, List.length_cons]
          omega
        · rw [← count]
          refine ends.imp_right ?_
          rintro ⟨all, fault, isLast, ended⟩
          refine ⟨all, fault, ?_, ended⟩
          rw [List.getLast?_cons, isLast, Option.getD_some]
      · rw [if_neg more] at there
        obtain ⟨atEnd, _⟩ := ended_of_replay? later there rfl
        have nothing := Refusals.of_ended stillPoisoned later there rfl
        refine ⟨_, _, atEnd, nothing.cons happens visited silent, rfl, .inr ⟨?_, _, rfl, rfl⟩⟩
        rw [List.length_singleton]
        omega
    | delivers delivering => simp [phase] at delivering

/-- The refusals of a consumer came one after the other, at the end of what it did. -/
def RefusedInARow (w : World σ α) (index : Nat) (events : List Event) (faults : List QueueFault) :
    Prop :=
  ∃ earlier middle later, events = earlier ++ later ∧ w.replay? earlier = some middle ∧
    faultsBy index (w.visits earlier) = [] ∧ Refusals middle index later faults

theorem RefusedInARow.cons {faults : List QueueFault} (happens : w.next? event = some next)
    (quiet : faultsBy index (w.visit? event).toList = [])
    (row : RefusedInARow next index rest faults) :
    RefusedInARow w index (event :: rest) faults := by
  obtain ⟨earlier, middle, later, rfl, reached, before, refusals⟩ := row
  refine ⟨event :: earlier, middle, later, rfl, ?_, ?_, refusals⟩
  · rw [replay?, happens, Option.bind_some, reached]
  · rw [visits_cons happens, Visit.faultsBy_append, quiet, before, List.append_nil]

/-- What has become of a consumer under a policy, and why. -/
inductive Outcome (w last : World σ α) (index : Nat) (events : List Event) (policy : RetryPolicy)
    (c : Consumer α) : Prop
  | underway (quiet : c.report.removeFailures = 0)
      (phase : c.phase = .removing 0 ∨ ∃ item, c.phase = .delivering item)
  | finished (quiet : c.report.removeFailures = 0) (phase : c.phase = .ended (.finished c.report))
  | panicked (phase : c.phase = .ended .panicked)
  | barred {text : String} (poisoned : last.sink.poisoned = true)
      (tried : ∃ item, ⟨index, item, .barred⟩ ∈ w.deliveries events)
      (phase : c.phase = .ended (.failed (.poisoned text)))
  | gone (destroyed : last.queue.lifecycle = .destroyed)
      (once : faultsBy index (w.visits events) = [.destroyed])
      (phase : c.phase = .ended (.failed .destroyed))
  | refused {faults : List QueueFault} (poisoned : last.queue.poisoned = true)
      (row : RefusedInARow w index events faults)
      (phase : c.phase = .removing faults.length ∨
        faults.length = policy.attempts ∧ ∃ fault, faults.getLast? = some fault ∧
          c.phase = .ended (.failed (.exhausted policy.attempts fault)))

/-- What comes of a consumer does not depend on an event in which it was not refused. -/
theorem Outcome.cons (happens : w.next? event = some next)
    (quiet : faultsBy index (w.visit? event).toList = [])
    (outcome : Outcome next last index rest policy c) :
    Outcome w last index (event :: rest) policy c := by
  cases outcome with
  | underway quiet phase => exact .underway quiet phase
  | finished quiet phase => exact .finished quiet phase
  | panicked phase => exact .panicked phase
  | barred poisoned tried phase =>
    obtain ⟨item, listed⟩ := tried
    refine .barred poisoned ⟨item, ?_⟩ phase
    rw [deliveries_cons happens]
    exact List.mem_append_right _ listed
  | gone destroyed once phase =>
    refine .gone destroyed ?_ phase
    rw [visits_cons happens, Visit.faultsBy_append, quiet, once, List.nil_append]
  | refused poisoned row phase => exact .refused poisoned (row.cons happens quiet) phase

/-- A consumer that has not been refused yet comes to one of these ends, if it comes to one. -/
theorem outcome_of_replay? (replayed : w.replay? events = some last)
    (here : w.tasks[index]? = some (.consumer c)) (quiet : c.report.removeFailures = 0)
    (phase : c.phase = .removing 0 ∨ ∃ item, c.phase = .delivering item) :
    ∃ after, last.tasks[index]? = some (.consumer after) ∧
      Outcome w last index events c.policy after := by
  induction events generalizing w c with
  | nil =>
    cases replayed
    exact ⟨c, here, .underway quiet phase⟩
  | cons event rest ih =>
    by_cases refuses : w.queue.poisoned = true ∧ c.phase = .removing 0
    · obtain ⟨poisoned, removing⟩ := refuses
      obtain ⟨faults, after, there, refusals, _, ends⟩ :=
        refusals_of_poisoned poisoned replayed here removing (Nat.le_max_right _ _)
      have still : last.queue.poisoned = true := (refused_of_replay? poisoned replayed).1 ▸ poisoned
      rw [Nat.zero_add] at ends
      exact ⟨after, there, .refused still ⟨[], w, event :: rest, rfl, rfl, rfl, refusals⟩ ends⟩
    obtain ⟨next, happens, later⟩ := Option.bind_eq_some_iff.mp replayed
    obtain ⟨after, there, part⟩ := part_of_next? happens here
    cases part with
    | rests silent spared =>
      obtain ⟨final, atEnd, outcome⟩ := ih later there quiet phase
      exact ⟨final, atEnd, outcome.cons happens (faultsBy_of_silent silent)⟩
    | @answered failures reply _ removing visited _ effect _ =>
      have sound : w.queue.poisoned = false := by
        refine Bool.eq_false_iff.mpr fun poisoned => refuses ⟨poisoned, ?_⟩
        exact phase.resolve_right fun ⟨item, other⟩ => nomatch removing.symm.trans other
      have fault : faultsBy index (w.visit? event).toList =
          (Visit.fault? ⟨index, .remove, some reply⟩).toList := by
        rw [visited]
        exact Visit.faultsBy_singleton index .remove (some reply)
      cases effect with
      | refused same refusal =>
        cases refusal with
        | poisoned poisoned => simp [sound] at poisoned
        | destroyed destroyed =>
          rw [Consumer.afterRemove, c.afterFault_destroyed] at there
          obtain ⟨atEnd, faults, _⟩ := ended_of_replay? later there rfl
          have still : last.queue.lifecycle = .destroyed :=
            (onward_of_reaches (reaches_of_replay? later)).staysDestroyed (same ▸ destroyed)
          refine ⟨_, atEnd, .gone still ?_ rfl⟩
          rw [visits_cons happens, Visit.faultsBy_append, fault, faults]
          rfl
        | closed _ adds => exact absurd rfl adds
        | allocation _ adds => exact absurd rfl adds
      | removed =>
        obtain ⟨final, atEnd, outcome⟩ := ih later there quiet (.inr ⟨_, rfl⟩)
        exact ⟨final, atEnd, outcome.cons happens fault⟩
      | metMarker | drained =>
        exact ⟨_, (ended_of_replay? later there rfl).1, .finished quiet rfl⟩
      | panicked => exact ⟨_, (ended_of_replay? later there rfl).1, .panicked rfl⟩
      | inserted adds => cases adds
      | judged _ _ asks => simp at asks
    | @delivers item _ silent delivery _ sink =>
      have noFault : faultsBy index (w.visit? event).toList = [] := by
        rw [silent]
        rfl
      cases poisoned : w.sink.poisoned with
      | true =>
        rw [Consumer.deliver_of_poisoned poisoned] at there sink
        have still : last.sink.poisoned = true :=
          (offered_of_replay? later).poisoned.mpr (.inl (sink ▸ poisoned))
        refine ⟨_, (ended_of_replay? later there rfl).1, .barred still ⟨item, ?_⟩ rfl⟩
        rw [deliveries_cons happens, delivery, Fate.of, Monitor.lock_of_poisoned poisoned]
        exact List.mem_append_left _ (List.mem_singleton_self _)
      | false =>
        rw [Consumer.deliver_of_sound poisoned] at there
        dsimp only at there
        generalize (Sink.write w.sink.value item).1 = verdict at there
        cases verdict with
        | taken | rejected =>
          obtain ⟨final, atEnd, outcome⟩ := ih later there quiet (.inl rfl)
          exact ⟨final, atEnd, outcome.cons happens noFault⟩
        | panicked => exact ⟨_, (ended_of_replay? later there rfl).1, .panicked rfl⟩

/-- Around any queue, whatever the others do and whatever the sink makes of the items: a consumer that
ends with a report has seen no removal fail. It is told that its attempts are exhausted only if the
queue is poisoned, after exactly as many attempts as its policy allows, all of them refused for that
reason, one after the other and after its last delivery. It fails with a poisoned lock that was not
tried again only if that is the lock of the sink, and with a destroyed queue after a single removal
that failed. A closed queue and a lack of memory are no faults to it. -/
theorem outcome_explained {name : String}
    (begins : first.tasks[index]? = some (.consumer (.start name policy)))
    (replayed : first.replay? events = some last) :
    ∃ c, last.tasks[index]? = some (.consumer c) ∧
      (∀ report, c.ending? = some (.finished report) → report.removeFailures = 0) ∧
      (∀ attempts fault, c.ending? = some (.failed (.exhausted attempts fault)) →
        last.queue.poisoned = true ∧ attempts = max policy.maxAttempts 1 ∧
          (∃ text, fault = .poisoned text) ∧ ∃ faults, faults.length = attempts ∧
            faults.getLast? = some fault ∧ RefusedInARow first index events faults) ∧
      (∀ text, c.ending? = some (.failed (.poisoned text)) →
        last.sink.poisoned = true ∧ ∃ item, ⟨index, item, .barred⟩ ∈ first.deliveries events) ∧
      (c.ending? = some (.failed .destroyed) → last.queue.lifecycle = .destroyed ∧
        faultsBy index (first.visits events) = [.destroyed]) ∧
      c.ending? ≠ some (.failed .closed) ∧ c.ending? ≠ some (.failed .allocation) := by
  obtain ⟨c, there, outcome⟩ := outcome_of_replay? replayed begins rfl (.inl rfl)
  refine ⟨c, there, ?_⟩
  cases outcome with
  | underway _ phase =>
    have goesOn : c.ending? = none := by
      obtain phase | ⟨item, phase⟩ := phase <;> rw [Consumer.ending?, phase]
    simp [goesOn]
  | finished quiet phase =>
    have ended : c.ending? = some (.finished c.report) :=
      Consumer.ending?_of_ended phase
    simp [ended, quiet]
  | panicked phase =>
    have ended : c.ending? = some .panicked :=
      Consumer.ending?_of_ended phase
    simp [ended]
  | @barred text poisoned tried phase =>
    have ended : c.ending? = some (.failed (.poisoned text)) :=
      Consumer.ending?_of_ended phase
    simp [ended, poisoned, tried]
  | gone destroyed once phase =>
    have ended : c.ending? = some (.failed .destroyed) :=
      Consumer.ending?_of_ended phase
    simp [ended, destroyed, once]
  | @refused faults poisoned row phase =>
    obtain phase | ⟨all, fault, isLast, phase⟩ := phase
    · have goesOn : c.ending? = none := by rw [Consumer.ending?, phase]
      simp [goesOn]
    · have ended : c.ending? = some (.failed (.exhausted policy.attempts fault)) :=
        Consumer.ending?_of_ended phase
      rw [ended]
      refine ⟨by simp, fun attempts other same => ?_, by simp, by simp, by simp, by simp⟩
      cases same
      obtain ⟨earlier, middle, later, _, _, _, refusals⟩ := id row
      have known := refusals.poisoned fault (List.mem_of_getLast? isLast)
      exact ⟨poisoned, rfl, known, faults, all, isLast, row⟩

/-- A consumer that tries twice, in front of two readings, and a thread that looks at the second one,
whose check panics. -/
private def misled : World Scenario.RuledSink Scenario.FusedReading where
  queue := ⟨{ items := .ofList [⟨⟨7, ⟨0⟩, 0⟩, none⟩, ⟨⟨8, ⟨0⟩, 0⟩, some 1⟩] }, false⟩
  sink := ⟨{}, false⟩
  threads :=
    [{ name := "consumer"
       task := .consumer (.start "consumer" { RetryPolicy.standard with maxAttempts := 2 }) },
      { name := "observer", task := .caller [.peekMarker] [] }]

/-- The consumer writes the first reading, and tries twice to remove the second. -/
private def misleading : List Event := [.step 0 0, .step 0 0, .step 1 0, .step 0 0, .step 0 0]

private def misledAtLast : World Scenario.RuledSink Scenario.FusedReading :=
  (misled.replay? misleading).get (by decide +kernel)

/-- It is refused twice, after it has written the first reading. -/
theorem outcome_explained_exhausted :
    ∃ c, misledAtLast.tasks[0]? = some (.consumer c) ∧
      c.ending? = some (.failed (.exhausted 2 .locked)) ∧ misledAtLast.queue.poisoned = true ∧
      2 = max 2 1 ∧ ∃ faults, faults.length = 2 ∧ faults.getLast? = some .locked ∧
        RefusedInARow misled 0 misleading faults := by
  have replayed : misled.replay? misleading = some misledAtLast := (Option.some_get _).symm
  have begins : misled.tasks[0]? = some (.consumer
      (.start "consumer" { RetryPolicy.standard with maxAttempts := 2 })) := rfl
  obtain ⟨c, there, _, exhausted, _⟩ := outcome_explained begins replayed
  have known : misledAtLast.tasks[0]? = some (.consumer
      { policy := { RetryPolicy.standard with maxAttempts := 2 }
        report := ⟨"consumer", 1, 0, 2⟩
        phase := .ended (.failed (.exhausted 2 .locked)) }) := by decide +kernel
  have ended : c.ending? = some (.failed (.exhausted 2 .locked)) := by
    rw [there, Option.some.injEq, Task.consumer.injEq] at known
    rw [known]
    rfl
  obtain ⟨poisoned, attempts, _, row⟩ := exhausted 2 .locked ended
  exact ⟨c, there, ended, poisoned, attempts, row⟩

end World

end SensorRelay
