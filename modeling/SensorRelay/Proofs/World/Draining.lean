import SensorRelay.Proofs.Queue.Item
import SensorRelay.Proofs.World.Pool
import SensorRelay.Proofs.World.Turn
import Mathlib.Data.List.DropRight

/-! # What a consumer drains

A consumer that nobody disturbs, at a queue that is closed or holds a marker, takes an item and
offers it to the sink, over and over, and ends where the stream does. Two of its steps deal with one
item, whatever the sink makes of it, and one more finds the end; so the items in front of the first
marker are the measure of its run, and what it leaves is all from the marker on.
-/

namespace SensorRelay

variable {σ α β : Type}

namespace SharedQueue

variable (face : α → β) (isMarker : β → Bool) (q : SharedQueue α)

/-- The items in front of the first marker. -/
def ahead : List β := (q.list.map face).takeWhile fun item => !isMarker item

/-- The items from the first marker on. -/
def behind : List β := (q.list.map face).dropWhile fun item => !isMarker item

/-- Removals come to an end, without waiting for anybody. -/
def Ends : Prop := q.lifecycle = .closed ∨ ∃ item ∈ q.list, isMarker (face item) = true

variable {face isMarker q} {next : SharedQueue α}

theorem ahead_cons {head : α} {rest : List α} (items : q.list = head :: rest)
    (plain : isMarker (face head) = false) :
    q.ahead face isMarker = face head :: (rest.map face).takeWhile fun item => !isMarker item := by
  rw [ahead, items, List.map_cons, List.takeWhile_cons_of_pos (by simp [plain])]

theorem behind_cons {head : α} {rest : List α} (items : q.list = head :: rest)
    (plain : isMarker (face head) = false) :
    q.behind face isMarker = (rest.map face).dropWhile fun item => !isMarker item := by
  rw [behind, items, List.map_cons, List.dropWhile_cons_of_pos (by simp [plain])]

theorem ahead_of_marked {head : α} {rest : List α} (items : q.list = head :: rest)
    (isOne : isMarker (face head) = true) :
    q.ahead face isMarker = [] ∧ q.behind face isMarker = q.list.map face := by
  rw [ahead, behind, items, List.map_cons, List.takeWhile_cons_of_neg (by simp [isOne]),
    List.dropWhile_cons_of_neg (by simp [isOne])]
  exact ⟨rfl, rfl⟩

theorem ahead_of_nil (items : q.list = []) :
    q.ahead face isMarker = [] ∧ q.behind face isMarker = q.list.map face := by
  rw [ahead, behind, items]
  exact ⟨rfl, rfl⟩

/-- There is nothing in front of the marker where all of that is gone. -/
theorem of_left (left : next.list.map face = q.behind face isMarker) :
    next.ahead face isMarker = [] ∧ next.behind face isMarker = next.list.map face := by
  rw [ahead, behind, left]
  exact ⟨List.takeWhile_eq_nil_iff.mpr (List.dropWhile_get_zero_not _ _),
    List.dropWhile_idempotent _ _⟩

/-- What is left still ends. -/
theorem Ends.of_left (ends : q.Ends face isMarker)
    (left : next.list.map face = q.behind face isMarker)
    (lifecycle : next.lifecycle = q.lifecycle) : next.Ends face isMarker := by
  refine ends.imp lifecycle.trans ?_
  rintro ⟨marker, listed, isOne⟩
  have all : face marker ∈ q.ahead face isMarker ++ q.behind face isMarker := by
    rw [ahead, behind, List.takeWhile_append_dropWhile]
    exact List.mem_map_of_mem listed
  obtain before | after := List.mem_append.mp all
  · have plain := List.mem_takeWhile_imp before
    simp [isOne] at plain
  · rw [← left] at after
    obtain ⟨item, listed, same⟩ := List.mem_map.mp after
    exact ⟨item, listed, same ▸ isOne⟩

variable [QueueItem α] {reply : Option (Reply α)} {signal : Option Signal}

/-- What a removal does to a queue whose end is in sight. -/
inductive Removal (face : α → β) (isMarker : β → Bool) (q next : SharedQueue α) :
    Reply α → Prop
  | took {item : α} (ahead : q.ahead face isMarker = face item :: next.ahead face isMarker)
      (behind : next.behind face isMarker = q.behind face isMarker)
      (ends : next.Ends face isMarker) (others : ∀ other ∈ next.list, other ∈ q.list) :
      Removal face isMarker q next (.item item)
  | ended (ahead : q.ahead face isMarker = [])
      (left : next.list.map face = q.behind face isMarker) :
      Removal face isMarker q next .endOfStream

/-- A removal takes the item at the head, or meets the end. -/
theorem Effect.removal (steady : Steady face isMarker)
    (effect : Effect q next .remove reply signal) (sound : q.poisoned = false)
    (alive : q.lifecycle ≠ .destroyed) (ends : q.Ends face isMarker)
    (calm : ∀ item ∈ q.list, QueueItem.inspect item ≠ .panicked) :
    signal = none ∧ next.poisoned = false ∧ next.lifecycle = q.lifecycle ∧
      ∃ answer, reply = some answer ∧ Removal face isMarker q next answer := by
  cases effect with
  | refused _ refusal =>
    obtain poisoned | gone := refusal.gone rfl
    · simp [sound] at poisoned
    · exact (alive gone).elim
  | inserted adds => cases adds
  | waits _ _ opened nothing =>
    obtain closed | ⟨item, listed, _⟩ := ends
    · simp [opened] at closed
    · simp [nothing] at listed
  | @removed head item _ _ checked items stillSound lifecycle =>
    have plain : isMarker (face head) = false := (steady.tells checked).symm
    refine ⟨rfl, stillSound, lifecycle, _, rfl, .took ?_ (behind_cons items plain).symm ?_ ?_⟩
    · rw [ahead_cons items plain, steady.keeps checked]
      rfl
    · refine ends.imp lifecycle.trans ?_
      rintro ⟨marker, listed, isOne⟩
      rw [items] at listed
      obtain rfl | later := List.mem_cons.mp listed
      · simp [plain] at isOne
      · exact ⟨marker, later, isOne⟩
    · intro other listed
      exact items ▸ List.mem_cons_of_mem _ listed
  | metMarker _ _ checked items itemsAfter stillSound lifecycle =>
    have isOne := (steady.tells checked).symm
    obtain ⟨ahead, behind⟩ := ahead_of_marked items isOne
    refine ⟨rfl, stillSound, lifecycle, _, rfl, .ended ahead ?_⟩
    rw [behind, items, itemsAfter, List.map_cons, List.map_cons, steady.keeps checked]
  | drained same _ _ items =>
    subst same
    have nothing : next.ahead face isMarker = [] ∧ next.behind face isMarker = next.list.map face :=
      ahead_of_nil items
    exact ⟨rfl, sound, rfl, _, rfl, .ended nothing.1 nothing.2.symm⟩
  | judged _ _ asks => simp at asks
  | panicked _ _ checked items => exact (calm _ (items ▸ List.mem_cons_self) checked).elim

end SharedQueue

theorem Thread.after_of_answered {outcome : Outcome α} {reply : Reply α} (thread : Thread α)
    (answered : outcome.reply = some reply) (silent : outcome.signal = none) :
    (thread.after outcome).1 =
      { thread with task := (thread.task.resume reply).1, standing := .ready } := by
  simp only [after, answered, silent]

/-- A consumer goes on after a write that was answered, and counts it. -/
theorem Consumer.afterWrite_of_answered [QueueItem α] (c : Consumer α) (item : α) {verdict : Verdict}
    (answered : verdict ≠ .panicked) :
    (c.afterWrite item verdict).1 =
      { c with
        phase := .removing 0
        report := { c.report with
          delivered := c.report.delivered + if verdict == .taken then 1 else 0
          sinkFailures := c.report.sinkFailures + if verdict.isRejected then 1 else 0 } } := by
  cases verdict with
  | taken => rfl
  | rejected text => rfl
  | panicked => exact absurd rfl answered

namespace World

variable [QueueItem α] [Sink σ α] {w next last : World σ α} {event : Event} {events : List Event}
  {index : Nat} {thread : Thread α} {c : Consumer α} {face : α → β} {isMarker : β → Bool}

/-- A consumer that is ready when its turn comes removes or delivers. -/
private theorem turn_of_consumer (happens : w.next? event = some next)
    (here : w.threads[index]? = some thread) (ready : thread.standing = .ready)
    (task : thread.task = .consumer c) (own : event.place = index) :
    (∃ failures, c.phase = .removing failures ∧ w.delivery? event = none ∧
      next = w.makeCall index thread .remove .lock) ∨
    (∃ item, c.phase = .delivering item ∧
      w.delivery? event = some ⟨index, item, .of w.sink item⟩ ∧ next.queue = w.queue ∧
      next.sink = (c.deliver item w.sink).2.1 ∧ next.threads =
        w.threads.set index { thread with task := .consumer (c.deliver item w.sink).1 }) := by
  subst own
  cases cause_of_next? happens with
  | calls there awake calls same =>
    cases here.symm.trans there
    obtain ⟨_, rfl⟩ | ⟨woken, _⟩ := awake
    · obtain ⟨rfl, failures, phase, _⟩ := Task.removing_of_call? (task ▸ calls)
      refine .inl ⟨failures, phase, ?_, same⟩
      simp [delivery?, there, ready, task, phase]
    · simp [ready] at woken
  | notifies there owes =>
    cases here.symm.trans there
    simp [ready] at owes
  | draws there _ other =>
    cases here.symm.trans there
    simp [task] at other
  | @delivers _ _ _ writer item there _ other phase same =>
    cases here.symm.trans there
    cases task.symm.trans other
    refine .inr ⟨item, phase, ?_, same ▸ rfl, same ▸ rfl, same ▸ rfl⟩
    simp [delivery?, Event.place, there, ready, task, phase]
  | idles there woken =>
    cases here.symm.trans there
    simp [ready] at woken
  | wakes there asleep =>
    cases here.symm.trans there
    simp [ready] at asleep
  | lacks there _ calls adds =>
    cases here.symm.trans there
    obtain ⟨rfl, _⟩ := Task.removing_of_call? (task ▸ calls)
    cases adds

/-- A consumer that is ready, at a queue that it can drain and a sink that it can write to. -/
structure Draining (face : α → β) (isMarker : β → Bool) (w : World σ α) (index : Nat)
    (c : Consumer α) : Prop where
  ready : ∃ name, w.threads[index]? = some { name, task := .consumer c }
  sound : w.queue.poisoned = false
  alive : w.queue.lifecycle ≠ .destroyed
  ends : w.queue.Ends face isMarker
  calm : ∀ item ∈ w.queue.list, QueueItem.inspect item ≠ .panicked
  sink : w.sink.poisoned = false

namespace Draining

omit [Sink σ α] in
private theorem canStep (draining : Draining face isMarker w index c)
    (phase : c.phase = .removing 0 ∨ ∃ item, c.phase = .delivering item) :
    w.canStep index = true := by
  obtain ⟨name, here⟩ := draining.ready
  rw [canStep_of_ready here rfl, Task.hasEnded]
  obtain phase | ⟨item, phase⟩ := phase
  · rw [Consumer.ending?, phase]
    rfl
  · rw [Consumer.ending?, phase]
    rfl

/-- Its removals are answered, and it stays ready. -/
private theorem removes (steady : Steady face isMarker) (draining : Draining face isMarker w index c)
    (phase : c.phase = .removing 0) (happens : w.next? event = some next)
    (own : event.place = index) :
    w.delivery? event = none ∧ next.sink = w.sink ∧ next.queue.poisoned = false ∧
      next.queue.lifecycle = w.queue.lifecycle ∧ ∃ reply,
        w.queue.Removal face isMarker next.queue reply ∧
        ∃ name, next.threads[index]? = some { name, task := .consumer (c.afterRemove 0 reply).1 } := by
  obtain ⟨name, here⟩ := draining.ready
  have bound := (List.getElem?_eq_some_iff.mp here).1
  obtain ⟨_, _, silent, rfl⟩ | ⟨item, delivering, _⟩ := turn_of_consumer happens here rfl rfl own
  · have takes := w.queue.effect_perform .lock .remove
    obtain ⟨quiet, sound, lifecycle, reply, answered, removal⟩ :=
      takes.removal steady draining.sound draining.alive draining.ends draining.calm
    have after := Thread.after_of_answered { name, task := .consumer c } answered quiet
    simp only [Task.resume, phase] at after
    refine ⟨silent, rfl, sound, lifecycle, reply, removal, name, ?_⟩
    exact (List.getElem?_set_self bound).trans (congrArg some after)
  · simp [phase] at delivering

/-- Its deliveries go on with the next state of the sink. -/
private theorem delivers {item : α} (composed : Sink.Composed σ α)
    (draining : Draining face isMarker w index c) (phase : c.phase = .delivering item)
    (happens : w.next? event = some next) (own : event.place = index) :
    (∃ fate, w.delivery? event = some ⟨index, item, fate⟩) ∧ next.queue = w.queue ∧
      next.sink = ⟨(Sink.write w.sink.value item).2, false⟩ ∧
      Draining face isMarker next index
        (c.afterWrite item (Sink.write w.sink.value item).1).1 := by
  obtain ⟨name, here⟩ := draining.ready
  have bound := (List.getElem?_eq_some_iff.mp here).1
  obtain ⟨_, removing, _⟩ | ⟨other, delivering, delivery, queue, sink, threads⟩ :=
    turn_of_consumer happens here rfl rfl own
  · simp [phase] at removing
  · cases phase.symm.trans delivering
    have calm : ((Sink.write w.sink.value item).1 == Verdict.panicked) = false :=
      beq_eq_false_iff_ne.mpr (composed w.sink.value item)
    rw [Consumer.deliver_of_sound draining.sink] at sink threads
    dsimp only at sink threads
    rw [calm] at sink
    refine ⟨⟨_, delivery⟩, queue, sink, ⟨name, ?_⟩, ?_, ?_, ?_, ?_, ?_⟩
    · rw [threads, List.getElem?_set_self bound]
    · exact queue ▸ draining.sound
    · exact queue ▸ draining.alive
    · exact queue ▸ draining.ends
    · exact queue ▸ draining.calm
    · rw [sink]

end Draining

/-- The items that are offered to the sink in a run. -/
def offers (w : World σ α) (events : List Event) : List α :=
  (w.deliveries events).map Delivery.item

/-- What the sink makes of them, as long as it does not panic. -/
def verdicts (w : World σ α) (events : List Event) : List Verdict :=
  (Sink.offer w.sink.value (w.offers events)).1

/-- A sink that never panics has been offered all items of a run. -/
private theorem sink_of_composed (composed : Sink.Composed σ α) (sound : w.sink.poisoned = false)
    (replayed : w.replay? events = some last) :
    last.sink = ⟨(Sink.offer w.sink.value (w.offers events)).2, false⟩ :=
  (offered_of_replay? replayed).of_composed composed sound

/-- What a consumer leaves behind that has drained its queue in a run. -/
structure Drained (face : α → β) (isMarker : β → Bool) (w : World σ α) (index : Nat)
    (c : Consumer α) (events : List Event) (last : World σ α) : Prop where
  offered : (w.offers events).map face = c.hand.map face ++ w.queue.ahead face isMarker
  left : last.queue.list.map face = w.queue.behind face isMarker
  lifecycle : last.queue.lifecycle = w.queue.lifecycle
  sound : last.queue.poisoned = false
  ended : ∃ after, last.tasks[index]? = some (.consumer after) ∧
    after.phase = .ended (.finished
      { c.report with
        delivered := c.report.delivered + (w.verdicts events).countP (· == .taken)
        sinkFailures := c.report.sinkFailures + (w.verdicts events).countP Verdict.isRejected })

/-- How many steps a consumer takes to drain its queue: two for each item, one to find the end, and
one more if it has an item in hand. -/
def toDrain (face : α → β) (isMarker : β → Bool) (w : World σ α) (c : Consumer α) : Nat :=
  2 * (w.queue.ahead face isMarker).length + 1 + c.hand.length

namespace Drained

variable {rest : List Event} {item : α}

/-- What was drained after an item was taken, with that item in hand. -/
private theorem of_taken (happens : w.next? event = some next) (silent : w.delivery? event = none)
    (sink : next.sink = w.sink) (lifecycle : next.queue.lifecycle = w.queue.lifecycle)
    (nothing : c.hand = [])
    (ahead : w.queue.ahead face isMarker = face item :: next.queue.ahead face isMarker)
    (behind : next.queue.behind face isMarker = w.queue.behind face isMarker)
    (drained : Drained face isMarker next index { c with phase := .delivering item } rest last) :
    Drained face isMarker w index c (event :: rest) last := by
  have offers : w.offers (event :: rest) = next.offers rest := by
    rw [offers, deliveries_cons happens, silent]
    rfl
  refine ⟨?_, drained.left.trans behind, drained.lifecycle.trans lifecycle, drained.sound, ?_⟩
  · rw [offers, drained.offered, nothing, ahead]
    rfl
  · rw [verdicts, offers, ← sink]
    exact drained.ended

/-- What was drained after an item was written. -/
private theorem of_written {fate : Fate} (happens : w.next? event = some next)
    (delivery : w.delivery? event = some ⟨index, item, fate⟩) (queue : next.queue = w.queue)
    (sink : next.sink = ⟨(Sink.write w.sink.value item).2, false⟩) (inHand : c.hand = [item])
    (answered : (Sink.write w.sink.value item).1 ≠ .panicked)
    (drained : Drained face isMarker next index
      (c.afterWrite item (Sink.write w.sink.value item).1).1 rest last) :
    Drained face isMarker w index c (event :: rest) last := by
  have offers : w.offers (event :: rest) = item :: next.offers rest := by
    rw [offers, deliveries_cons happens, delivery]
    rfl
  rw [c.afterWrite_of_answered item answered] at drained
  refine ⟨?_, queue ▸ drained.left, queue ▸ drained.lifecycle, drained.sound, ?_⟩
  · rw [offers, List.map_cons, drained.offered, inHand, queue]
    rfl
  · obtain ⟨after, there, ended⟩ := drained.ended
    refine ⟨after, there, ended.trans ?_⟩
    rw [verdicts, verdicts, offers, sink, Sink.offer]
    simp only [List.countP_cons, Nat.add_assoc, Nat.add_comm]

/-- Nothing is drained where the stream has ended. -/
private theorem of_ended {name : String} (happens : w.next? event = some last)
    (silent : w.delivery? event = none) (sound : last.queue.poisoned = false)
    (lifecycle : last.queue.lifecycle = w.queue.lifecycle) (nothing : c.hand = [])
    (ahead : w.queue.ahead face isMarker = [])
    (left : last.queue.list.map face = w.queue.behind face isMarker)
    (there : last.threads[index]? =
      some { name, task := .consumer { c with phase := .ended (.finished c.report) } }) :
    Drained face isMarker w index c [event] last := by
  have offers : w.offers [event] = [] := by
    rw [offers, deliveries_cons happens, silent]
    rfl
  refine ⟨?_, left, lifecycle, sound, _, getElem?_tasks.mpr ⟨_, there, rfl⟩, ?_⟩
  · rw [offers, nothing, ahead]
    rfl
  · rw [verdicts, offers]
    rfl

end Drained

/-- A consumer that has ended takes no more turns. -/
private theorem nil_of_ended {ending : Ending ConsumerReport} {name : String}
    (here : w.threads[index]? = some { name, task := .consumer c })
    (ended : c.phase = .ended ending) (own : ∀ event ∈ events, event.place = index)
    (replayed : w.replay? events = some last) : events = [] ∧ last = w := by
  cases events with
  | nil =>
    cases replayed
    exact ⟨rfl, rfl⟩
  | cons event rest =>
    obtain ⟨next, happens, _⟩ := Option.bind_eq_some_iff.mp replayed
    obtain ⟨_, removing, _⟩ | ⟨_, delivering, _⟩ :=
      turn_of_consumer happens here rfl rfl (own event List.mem_cons_self)
    · simp [ended] at removing
    · simp [ended] at delivering

/-- A consumer that nobody disturbs takes as many steps as it takes to drain its queue, and no
more. -/
theorem drained_of_replay? (steady : Steady face isMarker) (composed : Sink.Composed σ α)
    (draining : Draining face isMarker w index c)
    (phase : c.phase = .removing 0 ∨ ∃ item, c.phase = .delivering item)
    (own : ∀ event ∈ events, event.place = index) (replayed : w.replay? events = some last) :
    events.length ≤ w.toDrain face isMarker c ∧
      (events.length < w.toDrain face isMarker c → last.canStep index = true) ∧
      (events.length = w.toDrain face isMarker c → Drained face isMarker w index c events last) := by
  induction events generalizing w c with
  | nil =>
    cases replayed
    refine ⟨Nat.zero_le _, fun _ => draining.canStep phase, fun done => ?_⟩
    rw [toDrain, List.length_nil] at done
    omega
  | cons event rest ih =>
    obtain ⟨next, happens, later⟩ := Option.bind_eq_some_iff.mp replayed
    obtain ⟨ownTurn, ownLater⟩ := List.forall_mem_cons.mp own
    obtain removing | ⟨item, delivering⟩ := phase
    · have nothing : c.hand = [] := by simp [Consumer.hand, removing]
      obtain ⟨silent, sink, sound, lifecycle, reply, removal, name, there⟩ :=
        draining.removes steady removing happens ownTurn
      cases removal with
      | @took item ahead behind ends others =>
        have drains : Draining face isMarker next index { c with phase := .delivering item } :=
          ⟨⟨name, there⟩, sound, lifecycle ▸ draining.alive, ends,
            fun other listed => draining.calm other (others other listed), sink ▸ draining.sink⟩
        obtain ⟨few, goesOn, drained⟩ := ih drains (.inr ⟨item, rfl⟩) ownLater later
        have size : w.toDrain face isMarker c =
            next.toDrain face isMarker { c with phase := .delivering item } + 1 := by
          rw [toDrain, ahead, nothing]
          rfl
        rw [size, List.length_cons]
        refine ⟨by omega, fun short => goesOn (by omega), fun all => ?_⟩
        exact (drained (by omega)).of_taken happens silent sink lifecycle nothing ahead behind
      | ended ahead left =>
        obtain ⟨rfl, rfl⟩ := nil_of_ended there rfl ownLater later
        have size : w.toDrain face isMarker c = 1 := by rw [toDrain, ahead, nothing]; rfl
        rw [size]
        refine ⟨Nat.le_refl _, fun short => absurd short (Nat.lt_irrefl _), fun _ => ?_⟩
        exact .of_ended happens silent sound lifecycle nothing ahead left there
    · have inHand : c.hand = [item] := by simp [Consumer.hand, delivering]
      have answered := composed w.sink.value item
      obtain ⟨⟨fate, delivery⟩, queue, sink, drains⟩ :=
        draining.delivers composed delivering happens ownTurn
      have written := c.afterWrite_of_answered item answered
      have removing : (c.afterWrite item (Sink.write w.sink.value item).1).1.phase = .removing 0 := by
        rw [written]
      obtain ⟨few, goesOn, drained⟩ := ih drains (.inl removing) ownLater later
      have size : w.toDrain face isMarker c =
          next.toDrain face isMarker (c.afterWrite item (Sink.write w.sink.value item).1).1 + 1 := by
        rw [toDrain, toDrain, queue, inHand, written]
        rfl
      rw [size, List.length_cons]
      refine ⟨by omega, fun short => goesOn (by omega), fun all => ?_⟩
      exact (drained (by omega)).of_written happens delivery queue sink inHand answered

/-- A consumer that nobody disturbs can take all its steps. -/
private theorem replay?_of_draining (steady : Steady face isMarker) (composed : Sink.Composed σ α)
    (draining : Draining face isMarker w index c)
    (phase : c.phase = .removing 0 ∨ ∃ item, c.phase = .delivering item) {count : Nat}
    (few : count ≤ w.toDrain face isMarker c) :
    ∃ last, w.replay? (List.replicate count (.step index 0)) = some last := by
  induction count with
  | zero => exact ⟨w, rfl⟩
  | succ count ih =>
    obtain ⟨middle, replayed⟩ := ih (Nat.le_of_succ_le few)
    have own : ∀ event ∈ List.replicate count (Event.step index 0), event.place = index :=
      fun event listed => List.eq_of_mem_replicate listed ▸ rfl
    obtain ⟨_, goesOn, _⟩ := drained_of_replay? steady composed draining phase own replayed
    have able : middle.canStep index = true := goesOn (by rw [List.length_replicate]; exact few)
    refine ⟨middle.step index 0, ?_⟩
    rw [List.replicate_succ', replay?_append, replayed, Option.bind_some, replay?, next?, if_pos able]
    rfl

/-- An event with which a consumer ends at once: it offers nothing and changes nothing. -/
structure Vain (face : α → β) (w : World σ α) (index : Nat) (name : String) (event : Event)
    (next : World σ α) : Prop where
  offers : w.offers [event] = []
  sink : next.sink = w.sink
  items : next.queue.list.map face = w.queue.list.map face
  lifecycle : next.queue.lifecycle = w.queue.lifecycle
  sound : next.queue.poisoned = false
  ended : ∃ c, next.tasks[index]? = some (.consumer c) ∧
    c.ending? = some (.finished ⟨name, 0, 0, 0⟩)

/-- Where a queue has been drained, a consumer that starts ends with its first step. -/
private theorem vain_of_drained {name : String} {policy : RetryPolicy}
    (steady : Steady face isMarker) (composed : Sink.Composed σ α)
    (draining : Draining face isMarker w index (.start name policy))
    (nothing : w.queue.ahead face isMarker = [])
    (left : w.queue.behind face isMarker = w.queue.list.map face) :
    w.canStep index = true ∧ ∀ event next, event.place = index → w.next? event = some next →
      Vain face w index name event next := by
  have size : w.toDrain face isMarker (.start name policy) = 1 := by
    rw [toDrain, nothing]
    rfl
  constructor
  · exact draining.canStep (.inl rfl)
  · intro event next own happens
    have replayed : w.replay? [event] = some next := by rw [replay?, happens]; rfl
    obtain ⟨_, _, drained⟩ :=
      drained_of_replay? steady composed draining (.inl rfl) (by simpa using own) replayed
    have after := drained (by rw [size]; rfl)
    have offers : w.offers [event] = [] := by
      have offered := after.offered
      rw [nothing] at offered
      exact List.map_eq_nil_iff.mp offered
    obtain ⟨c, there, ended⟩ := after.ended
    have sink := sink_of_composed composed draining.sink replayed
    rw [verdicts, offers] at ended
    rw [offers] at sink
    refine ⟨offers, ?_, after.left.trans left, after.lifecycle, after.sound, c, there, ?_⟩
    · rw [sink, ← draining.sink]
      rfl
    · rw [Consumer.ending?, ended]
      rfl

/-- What is left by a consumer of this name that has drained a queue from its start to its end: its
report, what it has offered, the sink, and the items from the marker on. For whoever starts to
consume these, with the sink as it is then, there is nothing to do. -/
structure Emptied (face : α → β) (isMarker : β → Bool) (w : World σ α) (index : Nat)
    (name : String) (events : List Event) (last : World σ α) : Prop where
  ended : ∃ c, last.tasks[index]? = some (.consumer c) ∧
    c.ending? = some (.finished ⟨name, (w.verdicts events).countP (· == .taken),
      (w.verdicts events).countP Verdict.isRejected, 0⟩)
  offered : (w.offers events).map face = w.queue.ahead face isMarker
  counted : (w.verdicts events).countP (· == .taken) +
    (w.verdicts events).countP Verdict.isRejected = (w.offers events).length
  sink : last.sink = ⟨(Sink.offer w.sink.value (w.offers events)).2, false⟩
  left : last.queue.list.map face = w.queue.behind face isMarker
  lifecycle : last.queue.lifecycle = w.queue.lifecycle
  sound : last.queue.poisoned = false
  again : ∀ (again : World σ α) (place : Nat) (threadName name : String) (policy : RetryPolicy),
    again.queue = last.queue → again.sink = last.sink → again.threads[place]? =
      some { name := threadName, task := .consumer (.start name policy) } →
    (∀ item ∈ last.queue.list, QueueItem.inspect item ≠ .panicked) →
    again.canStep place = true ∧
      ∀ event final, event.place = place → again.next? event = some final →
        Vain face again place name event final

/-- At a queue that is neither poisoned nor destroyed and that is closed or holds a marker, whose
checks do not panic, and at a sink that takes or rejects what it is given: a consumer that nobody
disturbs takes two steps for each item in front of the first marker and one more, can always take
the next of them, and then has ended with a report. It has offered these items to the sink, once
each and in order, and has counted what the sink made of them. It leaves the items from the marker
on, in a queue of the same lifecycle. Whoever starts to consume what is left, with the sink as it is
then, ends with the first step, offers nothing and changes nothing. -/
theorem queue_drained {threadName name : String} {policy : RetryPolicy}
    (begins : w.threads[index]? =
      some { name := threadName, task := .consumer (.start name policy) })
    (sound : w.queue.poisoned = false) (alive : w.queue.lifecycle ≠ .destroyed)
    (ends : w.queue.lifecycle = .closed ∨ ∃ item ∈ w.queue.list, isMarker (face item) = true)
    (steady : Steady face isMarker)
    (calm : ∀ item ∈ w.queue.list, QueueItem.inspect item ≠ .panicked)
    (sinkSound : w.sink.poisoned = false) (composed : Sink.Composed σ α) :
    let steps := 2 * (w.queue.ahead face isMarker).length + 1
    (∃ last, w.replay? (List.replicate steps (.step index 0)) = some last) ∧
      ∀ events last, (∀ event ∈ events, event.place = index) → w.replay? events = some last →
        events.length ≤ steps ∧ (events.length < steps → last.canStep index = true) ∧
        (events.length = steps → Emptied face isMarker w index name events last) := by
  intro steps
  have draining : Draining face isMarker w index (.start name policy) :=
    ⟨⟨threadName, begins⟩, sound, alive, ends, calm, sinkSound⟩
  refine ⟨replay?_of_draining steady composed draining (.inl rfl) (Nat.le_refl _), ?_⟩
  intro events last own replayed
  obtain ⟨few, goesOn, drained⟩ :=
    drained_of_replay? steady composed draining (.inl rfl) own replayed
  refine ⟨few, goesOn, fun all => ?_⟩
  have after := drained all
  have offered := sink_of_composed composed sinkSound replayed
  obtain ⟨c, there, ended⟩ := after.ended
  refine ⟨⟨c, there, ?_⟩, after.offered, Sink.countP_offer composed _ _, offered, after.left,
    after.lifecycle, after.sound, ?_⟩
  · rw [Consumer.ending?, ended]
    simp only [Consumer.start, Nat.zero_add]
  · intro again place threadName name policy queue sink here stillCalm
    obtain ⟨nothing, left⟩ := SharedQueue.of_left after.left
    have drains : Draining face isMarker again place (.start name policy) :=
      ⟨⟨threadName, here⟩, queue ▸ after.sound, queue ▸ after.lifecycle ▸ alive,
        queue ▸ SharedQueue.Ends.of_left ends after.left after.lifecycle, queue ▸ stillCalm,
        sink ▸ offered ▸ rfl⟩
    exact vain_of_drained steady composed drains (queue ▸ nothing) (queue ▸ left)

/-- Lines that cannot be written are rejected. -/
theorem composed_lineSink : Sink.Composed LineSink Reading := by
  intro sink r
  change (sink.judge r).1 ≠ .panicked
  unfold LineSink.judge
  split <;> simp

/-- Two consumers at an open queue of two readings, a marker and one more reading, and a device whose
first flush fails. -/
private def heaped : World LineSink Reading where
  queue := ⟨{ items := .ofList [⟨7, ⟨0⟩, 0⟩, ⟨8, ⟨0⟩, 0⟩, .endOfStream, ⟨9, ⟨0⟩, 0⟩] }, false⟩
  sink := ⟨{ device := { failingFlushes := [1] } }, false⟩
  threads :=
    [{ name := "first consumer", task := .consumer (.start "first consumer" .standard) },
      { name := "second consumer", task := .consumer (.start "second consumer" .standard) }]

private def cleared : World LineSink Reading :=
  (heaped.replay? (List.replicate 5 (.step 0 0))).get (by decide +kernel)

/-- The first consumer offers two readings, of which the sink rejects one, and leaves the marker and
what is behind it. The second one has nothing to do. -/
theorem queue_drained_to_marker :
    heaped.queue.ahead id Reading.isEndOfStream = [⟨7, ⟨0⟩, 0⟩, ⟨8, ⟨0⟩, 0⟩] ∧
      heaped.offers (List.replicate 5 (.step 0 0)) = [⟨7, ⟨0⟩, 0⟩, ⟨8, ⟨0⟩, 0⟩] ∧
      (∃ c, cleared.tasks[0]? = some (.consumer c) ∧
        c.ending? = some (.finished ⟨"first consumer", 1, 1, 0⟩)) ∧
      cleared.queue.list = [.endOfStream, ⟨9, ⟨0⟩, 0⟩] ∧ cleared.queue.lifecycle = .opened ∧
      cleared.canStep 1 = true ∧ ∀ final, cleared.next? (.step 1 0) = some final →
        final.sink = cleared.sink ∧ ∃ c, final.tasks[1]? = some (.consumer c) ∧
          c.ending? = some (.finished ⟨"second consumer", 0, 0, 0⟩) := by
  have replayed : heaped.replay? (List.replicate 5 (.step 0 0)) = some cleared :=
    (Option.some_get _).symm
  have ahead : heaped.queue.ahead id Reading.isEndOfStream = [⟨7, ⟨0⟩, 0⟩, ⟨8, ⟨0⟩, 0⟩] := by decide
  have behind : heaped.queue.behind id Reading.isEndOfStream = [.endOfStream, ⟨9, ⟨0⟩, 0⟩] := by
    decide
  have begins : heaped.threads[0]? = some
      { name := "first consumer", task := .consumer (.start "first consumer" .standard) } := rfl
  obtain ⟨_, runs⟩ := queue_drained begins rfl (by decide)
    (.inr ⟨.endOfStream, by decide, by decide⟩) steady_reading (fun item _ => calm_reading item) rfl
    composed_lineSink
  rw [ahead] at runs
  obtain ⟨_, _, emptied⟩ := runs _ cleared
    (fun event listed => List.eq_of_mem_replicate listed ▸ rfl) replayed
  have drained := emptied (by decide)
  have offered := drained.offered
  have left := drained.left
  rw [List.map_id, ahead] at offered
  rw [List.map_id, behind] at left
  obtain ⟨able, vain⟩ := drained.again cleared 1 "second consumer" "second consumer" .standard rfl
    rfl (by decide +kernel) fun item _ => calm_reading item
  have taken : ((heaped.verdicts (List.replicate 5 (.step 0 0))).countP (· == .taken)) = 1 := by
    decide +kernel
  have rejected : (heaped.verdicts (List.replicate 5 (.step 0 0))).countP Verdict.isRejected = 1 := by
    decide +kernel
  have report := drained.ended
  rw [taken, rejected] at report
  refine ⟨ahead, offered, report, left, drained.lifecycle, able, fun final happens => ?_⟩
  have nothing := vain (.step 1 0) final rfl happens
  exact ⟨nothing.sink, nothing.ended⟩

end World

end SensorRelay
