import SensorRelay.Proofs.Relay.Downstream
import SensorRelay.Proofs.World.Sink
import SensorRelay.Proofs.World.Task
import SensorRelay.Scenario.Item

/-! # A pool of consumers at a sink that may fail

Consumers share a queue and a sink that takes items, rejects them or panics over them. What a
consumer takes out of the queue it tries to write, once and in order, before it takes any more
(`Consumer.Accounts`). An item is lost only by a panic of the sink or at a sink that was poisoned by
one, and that ends the consumer. Accounts of consecutive steps add up, so they hold of every run.
All that was written before the panic, by whichever consumer, makes up the state of the sink
(`Sink.Offered`).
-/

namespace SensorRelay

variable {σ α : Type}

theorem Consumer.ending?_of_ended {c : Consumer α} {ending : Ending ConsumerReport}
    (ended : c.phase = .ended ending) : c.ending? = some ending := by
  rw [ending?, ended]

/-- The items that the thread at a place has taken out of the queue, in order. -/
def Visit.removedBy (index : Nat) (visits : List (Visit α)) : List α :=
  removed (visits.filter fun visit => visit.index == index)

/-- The deliveries of the consumer at a place, in order. -/
def Delivery.by (index : Nat) (deliveries : List (Delivery α)) : List (Delivery α) :=
  deliveries.filter fun delivery => delivery.index == index

theorem Delivery.by_append (index : Nat) (earlier later : List (Delivery α)) :
    Delivery.by index (earlier ++ later) = Delivery.by index earlier ++ Delivery.by index later :=
  List.filter_append _ _

/-- Was the item lost? -/
def Fate.isLoss (fate : Fate) : Bool := fate.ending?.isSome

namespace Consumer

/-- What became of the items that a consumer had in hand or has taken since: it has tried to write
them, one after the other, except for the one that it has in hand now. -/
structure Accounts (before : Consumer α) (taken : List α) (own : List (Delivery α))
    (after : Consumer α) : Prop where
  items : before.hand ++ taken = own.map Delivery.item ++ after.hand
  delivered : after.report.delivered =
    before.report.delivered + own.countP fun delivery => delivery.fate == .taken
  rejected : after.report.sinkFailures =
    before.report.sinkFailures + own.countP fun delivery => delivery.fate == .rejected
  lost : (own.countP fun delivery => delivery.fate.isLoss) ≤ 1
  ended : ∀ delivery ∈ own, ∀ ending, delivery.fate.ending? = some ending →
    after.phase = .ended ending
  final : ∀ ending, before.phase = .ended ending → after = before ∧ own = []

namespace Accounts

variable {first middle last c : Consumer α} {taken earlier later : List α}
  {own ownEarlier ownLater : List (Delivery α)}

theorem refl (c : Consumer α) : Accounts c [] [] c where
  items := by simp
  delivered := by simp
  rejected := by simp
  lost := by simp
  ended := by simp
  final _ _ := ⟨rfl, rfl⟩

/-- Accounts of consecutive steps add up. -/
theorem trans (left : Accounts first earlier ownEarlier middle)
    (right : Accounts middle later ownLater last) :
    Accounts first (earlier ++ later) (ownEarlier ++ ownLater) last where
  items := by
    rw [← List.append_assoc, left.items, List.append_assoc, right.items, List.map_append,
      List.append_assoc]
  delivered := by rw [right.delivered, left.delivered, List.countP_append, Nat.add_assoc]
  rejected := by rw [right.rejected, left.rejected, List.countP_append, Nat.add_assoc]
  lost := by
    rw [List.countP_append]
    have few := left.lost
    obtain nothing | something := Nat.eq_zero_or_pos
      (ownEarlier.countP fun delivery => delivery.fate.isLoss)
    · have := right.lost
      omega
    · -- Whoever has lost an item has ended, and makes no further delivery.
      obtain ⟨delivery, listed, loss⟩ := List.countP_pos_iff.mp something
      obtain ⟨ending, isEnding⟩ := Option.isSome_iff_exists.mp loss
      obtain ⟨_, rfl⟩ := right.final ending (left.ended delivery listed ending isEnding)
      simpa using few
  ended delivery listed ending isEnding := by
    obtain listed | listed := List.mem_append.mp listed
    · have stopped := left.ended delivery listed ending isEnding
      obtain ⟨rfl, _⟩ := right.final ending stopped
      exact stopped
    · exact right.ended delivery listed ending isEnding
  final ending isEnding := by
    obtain ⟨rfl, rfl⟩ := left.final ending isEnding
    obtain ⟨rfl, rfl⟩ := right.final ending isEnding
    exact ⟨rfl, rfl⟩

end Accounts

/-- A removal that failed leaves nothing in hand, and changes no count of items. -/
private theorem hand_afterFault (c : Consumer α) (failures : Nat) (fault : QueueFault) :
    (c.afterFault failures fault).1.hand = [] ∧
      (c.afterFault failures fault).1.report.delivered = c.report.delivered ∧
      (c.afterFault failures fault).1.report.sinkFailures = c.report.sinkFailures := by
  unfold afterFault
  split
  · exact ⟨rfl, rfl, rfl⟩
  · split
    · exact ⟨rfl, rfl, rfl⟩
    · exact ⟨rfl, rfl, rfl⟩

/-- A consumer that is answered has in hand what it has taken. -/
theorem accounts_afterRemove {c : Consumer α} {failures : Nat} (phase : c.phase = .removing failures)
    (reply : Reply α) (index : Nat) (call : Call α) :
    c.Accounts (Visit.removed? ⟨index, call, some reply⟩).toList []
      (c.afterRemove failures reply).1 := by
  have nothing : c.hand = [] := by simp [hand, phase]
  have holds : (c.afterRemove failures reply).1.hand =
        (Visit.removed? ⟨index, call, some reply⟩).toList ∧
      (c.afterRemove failures reply).1.report.delivered = c.report.delivered ∧
      (c.afterRemove failures reply).1.report.sinkFailures = c.report.sinkFailures := by
    cases reply with
    | refused fault => exact hand_afterFault c failures fault
    | _ => exact ⟨rfl, rfl, rfl⟩
  obtain ⟨inHand, delivered, rejected⟩ := holds
  exact {
    items := by rw [nothing, inHand]; rfl
    delivered
    rejected
    lost := Nat.zero_le _
    ended := by simp
    final := fun ending isEnding => by simp [phase] at isEnding }

/-- One delivery accounts for the item in hand, if it counts what was taken or rejected, or ends the
consumer. -/
private theorem accounts_of_delivery {before after : Consumer α} {item : α} {fate : Fate}
    (phase : before.phase = .delivering item) (index : Nat) (nothing : after.hand = [])
    (delivered : after.report.delivered =
      before.report.delivered + if fate = .taken then 1 else 0)
    (rejected : after.report.sinkFailures =
      before.report.sinkFailures + if fate = .rejected then 1 else 0)
    (ended : ∀ ending, fate.ending? = some ending → after.phase = .ended ending) :
    before.Accounts [] [⟨index, item, fate⟩] after where
  items := by
    have inHand : before.hand = [item] := by simp [hand, phase]
    rw [inHand, nothing]
    rfl
  delivered := by simpa using delivered
  rejected := by simpa using rejected
  lost := by
    rw [List.countP_singleton]
    split <;> omega
  ended delivery listed := by
    rw [List.mem_singleton.mp listed]
    exact ended
  final ending isEnding := by simp [phase] at isEnding

/-- At a poisoned sink a consumer ends, and leaves it as it is. -/
theorem deliver_of_poisoned [QueueItem α] [Sink σ α] {c : Consumer α} {item : α} {sink : Monitor σ}
    (poisoned : sink.poisoned = true) :
    c.deliver item sink =
      ({ c with phase := .ended (.failed (.poisoned Monitor.Fault.lock.message)) }, sink, []) := by
  rw [deliver, Monitor.lock_of_poisoned poisoned]

/-- Otherwise it goes on with what the sink makes of the item. -/
theorem deliver_of_sound [QueueItem α] [Sink σ α] {c : Consumer α} {item : α} {sink : Monitor σ}
    (sound : sink.poisoned = false) :
    c.deliver item sink =
      let written := Sink.write sink.value item
      ((c.afterWrite item written.1).1, ⟨written.2, written.1 == .panicked⟩,
        (c.afterWrite item written.1).2) := by
  rw [deliver, Monitor.lock_of_sound sound]

/-- A consumer that tries to write an item accounts for it. -/
theorem accounts_deliver [QueueItem α] [Sink σ α] {c : Consumer α} {item : α}
    (phase : c.phase = .delivering item) (sink : Monitor σ) (index : Nat) :
    c.Accounts [] [⟨index, item, .of sink item⟩] (c.deliver item sink).1 := by
  cases poisoned : sink.poisoned with
  | true =>
    rw [deliver_of_poisoned poisoned, Fate.of, Monitor.lock_of_poisoned poisoned]
    refine accounts_of_delivery phase index rfl rfl rfl ?_
    rintro _ ⟨⟩
    rfl
  | false =>
    rw [deliver_of_sound poisoned, Fate.of, Monitor.lock_of_sound poisoned]
    dsimp only
    generalize Sink.write sink.value item = written
    obtain ⟨verdict, state⟩ := written
    cases verdict with
    | taken =>
      exact accounts_of_delivery phase index rfl rfl rfl (by simp [Verdict.fate, Fate.ending?])
    | rejected text =>
      exact accounts_of_delivery phase index rfl rfl rfl (by simp [Verdict.fate, Fate.ending?])
    | panicked =>
      refine accounts_of_delivery phase index rfl rfl rfl ?_
      rintro _ ⟨⟩
      rfl

end Consumer

namespace World

variable [QueueItem α] [Sink σ α] {w next first last : World σ α} {event : Event} {index : Nat}

/-- An event that is no delivery leaves the sink alone, and all consumers that have an item in
hand. -/
structure Spares (w next : World σ α) : Prop where
  sink : next.sink = w.sink
  inHand {index : Nat} {c : Consumer α} {item : α} (here : w.tasks[index]? = some (.consumer c))
    (phase : c.phase = .delivering item) : next.tasks[index]? = some (.consumer c)

omit [QueueItem α] [Sink σ α] in
private theorem spares_of_tasks (sink : next.sink = w.sink) (tasks : next.tasks = w.tasks) :
    Spares w next := ⟨sink, fun here _ => tasks ▸ here⟩

/-- Has a task no item in hand? -/
private def Idle (task : Task α) : Prop :=
  ∀ c item, task = .consumer c → c.phase ≠ .delivering item

omit [QueueItem α] in
private theorem idle_of_call? {task : Task α} {call : Call α} (calls : task.call? = some call) :
    Idle task := by
  rintro c item rfl phase
  simp [Task.call?, phase] at calls

omit [QueueItem α] [Sink σ α] in
private theorem spares_of_set {thread new : Thread α} (here : w.threads[index]? = some thread)
    (idle : Idle thread.task) (sink : next.sink = w.sink)
    (threads : next.threads = w.threads.set index new) : Spares w next := by
  refine ⟨sink, fun {place c item} there phase => ?_⟩
  obtain rfl | apart := eq_or_ne index place
  · obtain ⟨same, listed, task⟩ := getElem?_tasks.mp there
    rw [here, Option.some.injEq] at listed
    exact (idle c item (listed ▸ task) phase).elim
  · rw [tasks, threads, List.map_set, List.getElem?_set_ne apart]
    exact there

omit [QueueItem α] in
private theorem delivery?_of_idle {thread : Thread α} (here : w.threads[index]? = some thread)
    (idle : thread.standing = .ready → Idle thread.task) (choice : Nat) :
    w.delivery? (.step index choice) = none := by
  simp only [delivery?, bind, here, Option.bind_some]
  split
  · next c ready task =>
    split
    · next item phase => exact (idle ready c item task phase).elim
    · rfl
  · rfl

/-- An event is a delivery, or it spares the sink and those that have an item in hand. -/
theorem delivers_or_spares (happens : w.next? event = some next) :
    (w.delivery? event = none ∧ Spares w next) ∨
      ∃ index c item, w.tasks[index]? = some (.consumer c) ∧ c.phase = .delivering item ∧
        w.visit? event = none ∧ w.delivery? event = some ⟨index, item, .of w.sink item⟩ ∧
        next.queue = w.queue ∧ next.sink = (c.deliver item w.sink).2.1 ∧
        next.tasks = w.tasks.set index (.consumer (c.deliver item w.sink).1) := by
  cases cause_of_next? happens with
  | calls here awake calls same =>
    have idle := idle_of_call? calls
    exact .inl ⟨delivery?_of_idle here (fun _ => idle) _, same ▸ spares_of_set here idle rfl rfl⟩
  | notifies here owes same =>
    refine .inl ⟨delivery?_of_idle here (by simp [owes]) _, ?_⟩
    subst same
    refine spares_of_tasks (sink_notify _ _ _) ((tasks_notify _ _ _).trans ?_)
    exact set_standing here .ready
  | @draws _ _ thread _ here _ task _ same =>
    have idle : Idle thread.task := by
      intro c item other
      simp [task] at other
    exact .inl ⟨delivery?_of_idle here (fun _ => idle) _, same ▸ spares_of_set here idle rfl rfl⟩
  | @delivers index choice thread c item here ready task phase same =>
    refine .inr
      ⟨index, c, item, getElem?_tasks.mpr ⟨thread, here, task⟩, phase, ?_, ?_, same ▸ rfl, ?_, ?_⟩
    · simp [visit?, here, task, Task.call?, phase]
    · simp [delivery?, here, ready, task, phase]
    · rw [same]
      rfl
    · rw [same, tasks, update, List.map_set]
      rfl
  | idles here woken _ same =>
    exact .inl ⟨delivery?_of_idle here (by simp [woken]) _, same ▸ spares_of_tasks rfl rfl⟩
  | wakes _ _ same =>
    exact .inl ⟨rfl, same ▸ spares_of_tasks (sink_wake _ _) (tasks_wake _ _)⟩
  | lacks here _ calls _ same =>
    exact .inl ⟨rfl, same ▸ spares_of_set here (idle_of_call? calls) rfl rfl⟩

theorem deliveries_cons (happens : w.next? event = some next) (rest : List Event) :
    w.deliveries (event :: rest) = (w.delivery? event).toList ++ next.deliveries rest := by
  simp only [deliveries, happens, Option.map_some, Option.getD_some]

/-- The part that the consumer at a place has in an event, and what it is then. -/
inductive Part (w next : World σ α) (event : Event) (index : Nat) (c : Consumer α) :
    Consumer α → Prop
  | rests (silent : ∀ seen, w.visit? event = some seen → seen.index = index → seen.reply = none)
      (spared : ∀ delivery, w.delivery? event = some delivery → delivery.index ≠ index) :
      Part w next event index c c
  | answered {failures : Nat} {reply : Reply α} {signal : Option Signal}
      (phase : c.phase = .removing failures)
      (visited : w.visit? event = some ⟨index, .remove, some reply⟩)
      (silent : w.delivery? event = none)
      (effect : SharedQueue.Effect w.queue next.queue .remove (some reply) signal)
      (sink : next.sink = w.sink) : Part w next event index c (c.afterRemove failures reply).1
  | delivers {item : α} (phase : c.phase = .delivering item) (silent : w.visit? event = none)
      (delivery : w.delivery? event = some ⟨index, item, .of w.sink item⟩)
      (queue : next.queue = w.queue) (sink : next.sink = (c.deliver item w.sink).2.1) :
      Part w next event index c (c.deliver item w.sink).1

/-- A consumer that is spared was answered, or it stays as it is. -/
private theorem part_of_spares {visit : Option (Visit α)} (visited : w.visit? event = visit)
    (noDelivery : w.delivery? event = none) (act : Act w next visit) (spares : Spares w next)
    {c : Consumer α} (here : w.tasks[index]? = some (.consumer c)) :
    ∃ after, next.tasks[index]? = some (.consumer after) ∧ Part w next event index c after := by
  have bound := (List.getElem?_eq_some_iff.mp here).1
  have spared (delivery : Delivery α) (delivers : w.delivery? event = some delivery) :
      delivery.index ≠ index := by
    rw [noDelivery] at delivers
    cases delivers
  cases act with
  | rests silent _ _ tasks =>
    refine ⟨c, tasks ▸ here, .rests (fun seen found _ => ?_) spared⟩
    rw [visited] at found
    obtain rfl | ⟨place, call, rfl⟩ := silent
    · cases found
    · cases found
      rfl
  | @calls place task call reply _ there calls effect sink tasks =>
    obtain rfl | apart := eq_or_ne place index
    · cases here.symm.trans there
      obtain ⟨rfl, failures, phase, answered⟩ := Task.removing_of_call? calls
      refine ⟨(c.afterRemove failures reply).1, ?_, .answered phase visited noDelivery effect sink⟩
      rw [tasks, List.getElem?_set_self bound, answered]
    · refine ⟨c, ?_, .rests (fun seen found own => ?_) spared⟩
      · rw [tasks, List.getElem?_set_ne apart]
        exact here
      · rw [visited] at found
        cases found
        exact absurd own apart
  | @draws place p there _ _ _ _ tasks =>
    have apart : place ≠ index := by
      rintro rfl
      cases here.symm.trans there
    refine ⟨c, ?_, .rests (by simp [visited]) spared⟩
    rw [tasks, List.getElem?_set_ne apart]
    exact here
  | @delivers place writer item there phase _ _ tasks =>
    refine ⟨c, ?_, .rests (by simp [visited]) spared⟩
    obtain rfl | apart := eq_or_ne place index
    · cases here.symm.trans there
      exact spares.inHand there phase
    · rw [tasks, List.getElem?_set_ne apart]
      exact here

/-- A consumer has one of these parts in every event. -/
theorem part_of_next? (happens : w.next? event = some next) {c : Consumer α}
    (here : w.tasks[index]? = some (.consumer c)) :
    ∃ after, next.tasks[index]? = some (.consumer after) ∧ Part w next event index c after := by
  obtain ⟨noDelivery, spares⟩ |
    ⟨place, writer, item, there, phase, noVisit, delivery, queue, sink, tasks⟩ :=
    delivers_or_spares happens
  · exact part_of_spares rfl noDelivery (move_of_next? happens).act spares here
  · have bound := (List.getElem?_eq_some_iff.mp here).1
    obtain rfl | apart := eq_or_ne place index
    · cases here.symm.trans there
      exact ⟨_, tasks ▸ List.getElem?_set_self bound,
        .delivers phase noVisit delivery queue sink⟩
    · refine ⟨c, ?_, .rests (by simp [noVisit]) ?_⟩
      · rw [tasks, List.getElem?_set_ne apart]
        exact here
      · rw [delivery]
        rintro _ ⟨⟩
        exact apart

omit [QueueItem α] in
theorem by_of_spared
    (spared : ∀ delivery, w.delivery? event = some delivery → delivery.index ≠ index) :
    Delivery.by index (w.delivery? event).toList = [] :=
  List.filter_eq_nil_iff.mpr fun delivery delivers same =>
    spared delivery (Option.mem_toList.mp delivers) (beq_iff_eq.mp same)

/-- What an event does to a consumer is accounted for. -/
theorem accounts_of_next? (happens : w.next? event = some next) {c : Consumer α}
    (here : w.tasks[index]? = some (.consumer c)) :
    ∃ after, next.tasks[index]? = some (.consumer after) ∧
      c.Accounts (Visit.removedBy index (w.visit? event).toList)
        (Delivery.by index (w.delivery? event).toList) after := by
  obtain ⟨after, there, part⟩ := part_of_next? happens here
  refine ⟨after, there, ?_⟩
  cases part with
  | rests silent spared =>
    have nothing : Visit.removedBy index (w.visit? event).toList = [] := by
      refine List.filterMap_eq_nil_iff.mpr fun seen listed => ?_
      obtain ⟨visited, own⟩ := List.mem_filter.mp listed
      rw [Visit.removed?, silent seen (Option.mem_toList.mp visited) (beq_iff_eq.mp own)]
    rw [nothing, by_of_spared spared]
    exact .refl c
  | @answered failures reply _ phase visited silent =>
    rw [visited, silent]
    have own : Visit.removedBy index [⟨index, .remove, some reply⟩] =
        (Visit.removed? ⟨index, .remove, some reply⟩).toList := by simp [Visit.removedBy]
    exact own ▸ Consumer.accounts_afterRemove phase reply index .remove
  | @delivers item phase silent delivery =>
    rw [silent, delivery]
    have own : Delivery.by index [⟨index, item, .of w.sink item⟩] =
      [⟨index, item, .of w.sink item⟩] := by simp [Delivery.by]
    exact own ▸ Consumer.accounts_deliver phase w.sink index

/-- What a run does to a consumer is accounted for. -/
theorem accounts_of_replay? {events : List Event} (replayed : first.replay? events = some last)
    {c : Consumer α} (here : first.tasks[index]? = some (.consumer c)) :
    ∃ after, last.tasks[index]? = some (.consumer after) ∧
      c.Accounts (Visit.removedBy index (first.visits events))
        (Delivery.by index (first.deliveries events)) after := by
  induction events generalizing first c with
  | nil =>
    cases replayed
    exact ⟨c, here, .refl c⟩
  | cons event rest ih =>
    obtain ⟨next, happens, later⟩ := Option.bind_eq_some_iff.mp replayed
    obtain ⟨middle, there, left⟩ := accounts_of_next? happens here
    obtain ⟨after, atEnd, right⟩ := ih later there
    refine ⟨after, atEnd, ?_⟩
    have taken : Visit.removedBy index (first.visits (event :: rest)) =
        Visit.removedBy index (first.visit? event).toList ++
          Visit.removedBy index (next.visits rest) := by
      rw [visits_cons happens, Visit.removedBy, List.filter_append, Visit.removed_append]
      rfl
    have own : Delivery.by index (first.deliveries (event :: rest)) =
        Delivery.by index (first.delivery? event).toList ++
          Delivery.by index (next.deliveries rest) := by
      rw [deliveries_cons happens, Delivery.by_append]
    rw [taken, own]
    exact left.trans right

/-- What an event delivers goes to the sink, in front of what is delivered later. -/
theorem offered_of_next? (happens : w.next? event = some next) {later : List (Delivery α)}
    {after : Monitor σ} (offered : Sink.Offered next.sink later after) :
    Sink.Offered w.sink ((w.delivery? event).toList ++ later) after := by
  obtain ⟨noDelivery, spares⟩ | ⟨index, writer, item, _, _, _, delivery, _, sink, _⟩ :=
    delivers_or_spares happens
  · rw [noDelivery, ← spares.sink]
    exact offered
  · rw [delivery, Fate.of]
    cases poisoned : w.sink.poisoned with
    | true =>
      rw [Consumer.deliver_of_poisoned poisoned] at sink
      rw [Monitor.lock_of_poisoned poisoned]
      exact (sink ▸ offered).cons_of_poisoned poisoned index
    | false =>
      rw [Consumer.deliver_of_sound poisoned] at sink
      rw [Monitor.lock_of_sound poisoned]
      rw [sink] at offered
      exact .cons_of_sound poisoned index offered

/-- What a run makes of the sink is what its deliveries make of it. -/
theorem offered_of_replay? {events : List Event} (replayed : first.replay? events = some last) :
    Sink.Offered first.sink (first.deliveries events) last.sink := by
  induction events generalizing first with
  | nil =>
    cases replayed
    exact .refl _
  | cons event rest ih =>
    obtain ⟨next, happens, later⟩ := Option.bind_eq_some_iff.mp replayed
    rw [deliveries_cons happens]
    exact offered_of_next? happens (ih later)

/-- A task that might make a removal might have made it before. -/
private theorem mayRemove_of_act {visit : Option (Visit α)} (act : Act w next visit)
    {task : Task α} (here : next.tasks[index]? = some task) (may : task.mayRemove = true) :
    ∃ before, w.tasks[index]? = some before ∧ before.mayRemove = true := by
  have ofSet {place : Nat} {old new : Task α} (there : w.tasks[place]? = some old)
      (before : new.mayRemove = true → old.mayRemove = true)
      (tasks : next.tasks = w.tasks.set place new) :
      ∃ before, w.tasks[index]? = some before ∧ before.mayRemove = true := by
    have bound := (List.getElem?_eq_some_iff.mp there).1
    rw [tasks] at here
    obtain rfl | apart := eq_or_ne place index
    · rw [List.getElem?_set_self bound, Option.some.injEq] at here
      exact ⟨old, there, before (here ▸ may)⟩
    · rw [List.getElem?_set_ne apart] at here
      exact ⟨task, here, may⟩
  cases act with
  | rests _ _ _ tasks => exact ⟨task, tasks ▸ here, may⟩
  | calls there _ _ _ tasks => exact ofSet there Task.mayRemove_resume tasks
  | draws there _ _ _ _ tasks => exact ofSet there (by simp [Task.mayRemove]) tasks
  | delivers there _ _ _ tasks => exact ofSet there (fun _ => rfl) tasks

/-- Only who makes a removal takes an item out of the queue. -/
private theorem mayRemove_of_visit {seen : Visit α} (act : Act w next (some seen)) {item : α}
    (removed : seen.removed? = some item) :
    ∃ task, w.tasks[seen.index]? = some task ∧ task.mayRemove = true := by
  cases act with
  | rests silent =>
    obtain absent | ⟨_, _, same⟩ := silent
    · cases absent
    · cases same
      cases removed
  | @calls place task call reply _ here calls effect =>
    refine ⟨task, here, ?_⟩
    cases effect with
    | removed => exact Task.mayRemove_of_call? calls
    | _ => cases removed

/-- Who takes an item out of the queue might have done so from the beginning. -/
theorem mayRemove_of_removed {events : List Event} (replayed : first.replay? events = some last)
    {seen : Visit α} {item : α} (listed : seen ∈ first.visits events)
    (removed : seen.removed? = some item) :
    ∃ task, first.tasks[seen.index]? = some task ∧ task.mayRemove = true := by
  induction events generalizing first with
  | nil => cases listed
  | cons event rest ih =>
    obtain ⟨next, happens, later⟩ := Option.bind_eq_some_iff.mp replayed
    have act := (move_of_next? happens).act
    rw [visits_cons happens, List.mem_append, Option.mem_toList] at listed
    obtain visited | listed := listed
    · exact mayRemove_of_visit (visited ▸ act) removed
    · obtain ⟨task, here, may⟩ := ih later listed
      exact mayRemove_of_act act here may

/-- The threads that might take items out of the queue are consumers that are about to start. -/
def Pooled (w : World σ α) : Prop :=
  ∀ task ∈ w.tasks, task.mayRemove = true → ∃ name policy, task = .consumer (.start name policy)

/-- What became of the items that were taken out of the queue in a run from `first` to `last`. -/
structure Accounted (first : World σ α) (events : List Event) (last : World σ α) : Prop where
  /-- Whatever was removed, a consumer has removed it. -/
  removers : ∀ seen ∈ first.visits events, ∀ item, seen.removed? = some item →
    ∃ name policy, first.tasks[seen.index]? = some (.consumer (.start name policy))
  consumers : ∀ index name policy,
    first.tasks[index]? = some (.consumer (.start name policy)) →
    ∃ c, last.tasks[index]? = some (.consumer c) ∧
      (Consumer.start name policy).Accounts (Visit.removedBy index (first.visits events))
        (Delivery.by index (first.deliveries events)) c
  sink : Sink.Offered first.sink (first.deliveries events) last.sink
  /-- Nothing is written any more to a sink that is poisoned. -/
  untouched : last.sink.poisoned = true → ∀ later final, last.replay? later = some final →
    final.sink = last.sink ∧ ∀ delivery ∈ last.deliveries later, delivery.fate = .barred

/-- Around a queue from which only consumers remove, whatever they and the others do, and whatever
the sink makes of it: all items that were removed were removed by consumers. What a consumer has
removed, in order, it has tried to write, in that order, but for the one item that it may have in
hand as long as it runs. What was taken counts as delivered and what was rejected as a failure of
the sink; at most one item was lost, by a panic of the sink or at a sink that was poisoned, and then
the consumer has ended for that reason. The sink was offered, one after the other, what its panic
did not bar. Once it is poisoned, nothing is written to it. -/
theorem items_accounted_for {events : List Event} (pooled : Pooled first)
    (replayed : first.replay? events = some last) : Accounted first events last where
  removers := by
    intro seen listed item removed
    obtain ⟨task, here, may⟩ := mayRemove_of_removed replayed listed removed
    obtain ⟨name, policy, rfl⟩ := pooled task (List.mem_of_getElem? here) may
    exact ⟨name, policy, here⟩
  consumers _ _ _ here := accounts_of_replay? replayed here
  sink := offered_of_replay? replayed
  untouched := by
    intro poisoned later final goesOn
    have offered := offered_of_replay? goesOn
    exact ⟨offered.same poisoned, offered.bars poisoned⟩

/-- Four readings, two consumers, and a sink that rejects one reading and panics over another. -/
private def failing : World Scenario.RuledSink Scenario.FusedReading where
  queue := .empty
  sink := ⟨{ rejections := [(8, "full")], panics := [9] }, false⟩
  threads :=
    [{ name := "inserter"
       task := .caller
        [.insert ⟨⟨7, ⟨0⟩, 0⟩, none⟩, .insert ⟨⟨8, ⟨0⟩, 0⟩, none⟩, .insert ⟨⟨9, ⟨0⟩, 0⟩, none⟩,
          .insert ⟨⟨10, ⟨0⟩, 0⟩, none⟩] [] },
      { name := "first consumer", task := .consumer (.start "first consumer" .standard) },
      { name := "second consumer", task := .consumer (.start "second consumer" .standard) }]

/-- The first consumer writes two readings and takes the third one, the second one takes the last
one, and then the sink panics over the third. -/
private def failures : List Event :=
  List.replicate 8 (.step 0 0) ++ List.replicate 5 (.step 1 0) ++ [.step 2 0, .step 1 0]

private def failed : World Scenario.RuledSink Scenario.FusedReading :=
  (failing.replay? failures).get (by decide +kernel)

/-- The first consumer has lost the third reading, and the sink holds only the first one. The second
consumer has the last reading in hand, and will not be able to write it. -/
theorem items_accounted_for_failed :
    (∃ c, failed.tasks[1]? = some (.consumer c) ∧ c.report.delivered = 1 ∧
      c.report.sinkFailures = 1 ∧ c.phase = .ended .panicked) ∧
    (∃ c, failed.tasks[2]? = some (.consumer c) ∧ c.hand = [⟨⟨10, ⟨0⟩, 0⟩, none⟩]) ∧
    failed.sink.poisoned = true ∧
    failed.sink.value.lines.device.accepted.toList = "7,0.00,0\n".toUTF8.data.toList ∧
    ∀ final, failed.replay? [.step 2 0] = some final →
      final.sink = failed.sink ∧
        ∀ delivery ∈ failed.deliveries [.step 2 0], delivery.fate = .barred := by
  have replayed : failing.replay? failures = some failed := (Option.some_get _).symm
  have pooled : Pooled failing := by
    intro task listed may
    simp only [tasks, failing, List.map_cons, List.map_nil, List.mem_cons, List.not_mem_nil,
      or_false] at listed
    obtain rfl | rfl | rfl := listed
    · cases may
    · exact ⟨_, _, rfl⟩
    · exact ⟨_, _, rfl⟩
  have accounted := items_accounted_for pooled replayed
  obtain ⟨c, here, accounts⟩ := accounted.consumers 1 _ _ rfl
  obtain ⟨d, there, others⟩ := accounted.consumers 2 _ _ rfl
  have all : failing.deliveries failures =
      [⟨1, ⟨⟨7, ⟨0⟩, 0⟩, none⟩, .taken⟩, ⟨1, ⟨⟨8, ⟨0⟩, 0⟩, none⟩, .rejected⟩,
        ⟨1, ⟨⟨9, ⟨0⟩, 0⟩, none⟩, .panicked⟩] := by decide +kernel
  have removed : Visit.removedBy 2 (failing.visits failures) = [⟨⟨10, ⟨0⟩, 0⟩, none⟩] := by
    decide +kernel
  have sink := accounted.sink
  rw [all] at accounts others sink
  rw [removed] at others
  have lost : c.phase = .ended .panicked :=
    accounts.ended ⟨1, ⟨⟨9, ⟨0⟩, 0⟩, none⟩, .panicked⟩ (by decide) .panicked rfl
  have poisoned : failed.sink.poisoned = true := sink.poisoned.mpr (.inr (by decide))
  have written : failed.sink.value.lines.device.accepted.toList =
      "7,0.00,0\n".toUTF8.data.toList := by
    rw [sink.value]
    decide +kernel
  exact ⟨⟨c, here, accounts.delivered, accounts.rejected, lost⟩, ⟨d, there, others.items.symm⟩,
    poisoned, written, accounted.untouched poisoned _⟩

end World

end SensorRelay
