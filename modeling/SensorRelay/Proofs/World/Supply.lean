import SensorRelay.Proofs.Relay.Upstream
import SensorRelay.Proofs.World.Rejection
import SensorRelay.Proofs.World.Task
import SensorRelay.Scenario.Item

/-! # What a producer supplies

Whatever other threads do to its queue, a producer gets the first of its items into it, in order,
and none of the others, as a queue that has refused one of them refuses the rest
(`rejected_for_good`). So the items that it has supplied, those that were refused, the one in hand
and those yet to be drawn are together what its source brings (`Supplying.order`). At the end it
inserts its markers, or it leaves a queue that is not open, or it cannot even close the queue.
-/

namespace SensorRelay

variable {σ α β : Type}

/-- The item that an element brings to a queue, with the traces of the check that it has passed. -/
def Drawn.passed? [QueueItem α] : Drawn α → Option α
  | .item drawn =>
    match QueueItem.inspect drawn with
    | .seen false seen => some seen
    | _ => none
  | .failure _ => none

/-- What has passed the check is no marker. -/
theorem Drawn.not_marker_of_passed [QueueItem α] {face : α → β} {isMarker : β → Bool}
    (steady : Steady face isMarker) {elements : List (Drawn α)} {item : α}
    (passed : item ∈ elements.filterMap passed?) : isMarker (face item) = false := by
  obtain ⟨element, _, brings⟩ := List.mem_filterMap.mp passed
  cases element with
  | failure => cases brings
  | item drawn =>
    rw [passed?] at brings
    split at brings
    · next checked =>
      cases brings
      rw [steady.keeps checked]
      exact (steady.tells checked).symm
    · cases brings

/-- The critical sections of the thread at a place. -/
def Visit.by (index : Nat) (visits : List (Visit α)) : List (Visit α) :=
  visits.filter fun visit => visit.index == index

namespace Visit

/-- The item that was put into the queue, unless it was put there as a marker. -/
def supplied? (visit : Visit α) : Option α :=
  match visit.call, visit.reply with
  | .insert item, some .done => some item
  | _, _ => none

/-- The items that were put into the queue, other than markers, in order. -/
def supplied (visits : List (Visit α)) : List α := visits.filterMap supplied?

@[simp] theorem supplied_append (earlier later : List (Visit α)) :
    supplied (earlier ++ later) = supplied earlier ++ supplied later := List.filterMap_append

@[simp] theorem by_nil (index : Nat) : Visit.by index ([] : List (Visit α)) = [] := rfl

theorem by_append (index : Nat) (earlier later : List (Visit α)) :
    Visit.by index (earlier ++ later) = Visit.by index earlier ++ Visit.by index later :=
  List.filter_append _ _

theorem by_singleton_self (visit : Visit α) : Visit.by visit.index [visit] = [visit] :=
  List.filter_eq_self.mpr (by simp)

theorem by_singleton_of_ne {index : Nat} {visit : Visit α} (apart : visit.index ≠ index) :
    Visit.by index [visit] = [] :=
  List.filter_eq_nil_iff.mpr (by simpa using apart)

end Visit

namespace Producer

/-- A producer that ends its stream by closing the queue: at once, or before all markers are in. -/
def FallsShort (p : Producer α) : Prop :=
  p.termination = .close ∧ p.report.markers = 0 ∨
    p.termination = .sentinel ∧ p.report.markers < p.consumers

/-- How far a producer has ended its stream, whose own critical sections are given. -/
def Signals (index : Nat) (own : List (Visit α)) (p : Producer α) (q : SharedQueue α) : Prop :=
  match p.phase with
  | .drawing | .inserting _ => p.report.markers = 0
  | .marking => p.termination = .sentinel ∧ p.report.markers < p.consumers
  | .closing => p.FallsShort
  | .ended (.finished report) =>
    report = p.report ∧ (p.termination = .sentinel ∧ p.report.markers = p.consumers ∨
      q.lifecycle ≠ .opened ∧ p.FallsShort)
  | .ended (.failed fault) =>
    own.getLast? = some ⟨index, .close, some (.refused fault)⟩ ∧ q.Ruin fault
  | .ended .panicked => False

theorem phase_of_ending? {p : Producer α} {ending : Ending ProducerReport}
    (ended : p.ending? = some ending) : p.phase = .ended ending := by
  unfold ending? at ended
  split at ended
  · next phase => rw [phase, Option.some.inj ended]
  · cases ended

theorem hand_of_isPast {p : Producer α} (past : p.isPast = true) : p.hand = [] := by
  unfold isPast at past
  unfold hand
  split <;> simp_all

variable [QueueItem α]

/-- A producer on the way through its source, beside its queue: `start` is how it began, and `own`
are its critical sections so far. -/
structure Supplying (index : Nat) (start : Producer α) (own : List (Visit α)) (p : Producer α)
    (q : SharedQueue α) : Prop where
  termination : p.termination = start.termination
  consumers : p.consumers = start.consumers
  calm : ∀ item, .item item ∈ p.source → QueueItem.inspect item ≠ .panicked
  order : ∃ lost, Visit.supplied own ++ lost ++ p.hand ++ p.source.filterMap Drawn.passed? =
    start.source.filterMap Drawn.passed? ∧ (lost ≠ [] → q.Shut)
  inserted : p.report.inserted = (Visit.supplied own).length
  counted : p.report.inserted + p.report.dropped + p.report.sourceErrors + p.hand.length +
    p.source.length = start.source.length
  markers : Visit.inserted own =
    Visit.supplied own ++ List.replicate p.report.markers QueueItem.marker
  past : p.isPast = true → p.source = []
  signals : Signals index own p q

namespace Supplying

variable {index : Nat} {start p : Producer α} {own : List (Visit α)} {q next : SharedQueue α}

/-- A producer that begins has done nothing. -/
theorem begin {source : List (Drawn α)} {termination : Termination} {consumers : Nat}
    (calm : ∀ item, .item item ∈ source → QueueItem.inspect item ≠ .panicked)
    (q : SharedQueue α) :
    Supplying index { source, termination, consumers } [] { source, termination, consumers } q where
  termination := rfl
  consumers := rfl
  calm := calm
  order := ⟨[], rfl, fun something => (something rfl).elim⟩
  inserted := rfl
  counted := by simp [hand]
  markers := rfl
  past := nofun
  signals := rfl

/-- What others do to the queue does not bring it back. -/
theorem beside {call : Call α} {reply : Option (Reply α)} {signal : Option Signal}
    (effect : SharedQueue.Effect q next call reply signal) (up : Supplying index start own p q) :
    Supplying index start own p next := by
  obtain ⟨lost, order, shut⟩ := up.order
  have signals := up.signals
  refine { up with order := ⟨lost, order, fun something => effect.staysShut (shut something)⟩
                   signals := ?_ }
  unfold Signals at signals ⊢
  split at signals
  · exact signals
  · exact signals
  · exact signals
  · exact signals
  · obtain ⟨same, all | ⟨gone, short⟩⟩ := signals
    · exact ⟨same, .inl all⟩
    · exact ⟨same, .inr ⟨mt effect.onward.wasOpened gone, short⟩⟩
  · exact ⟨signals.1, effect.staysRuined signals.2⟩
  · exact signals

private theorem wrapUp (phase : p.phase = .drawing) (dry : p.source = [])
    (up : Supplying index start own p q) : Supplying index start own p.wrapUp.1 q := by
  have order := up.order
  have counted := up.counted
  have nothing := up.signals
  simp only [hand, phase] at order counted
  simp only [Signals, phase] at nothing
  unfold Producer.wrapUp
  split
  · next close =>
    exact { up with order, counted, past := fun _ => dry, signals := .inl ⟨close, nothing⟩ }
  · next sentinel nobody =>
    refine { up with order, counted, past := fun _ => dry, signals := ⟨rfl, .inl ⟨sentinel, ?_⟩⟩ }
    exact nothing.trans nobody.symm
  · next consumers sentinel more =>
    refine { up with order, counted, past := fun _ => dry, signals := ⟨sentinel, ?_⟩ }
    simp only [nothing, more]
    omega

/-- An element that brings nothing to the queue is counted and left out. -/
private theorem leaveOut {element : Drawn α} {rest : List (Drawn α)} {report : ProducerReport}
    (phase : p.phase = .drawing) (source : p.source = element :: rest)
    (nothing : element.passed? = none) (inserted : report.inserted = p.report.inserted)
    (markers : report.markers = p.report.markers)
    (counts : report.dropped + report.sourceErrors =
      p.report.dropped + p.report.sourceErrors + 1)
    (up : Supplying index start own p q) :
    Supplying index start own { p with source := rest, index := p.index + 1, report } q := by
  obtain ⟨lost, order, shut⟩ := up.order
  have calm := up.calm
  have counted := up.counted
  have signals := up.signals
  simp only [hand, phase, source, List.length_cons] at order counted
  rw [List.filterMap_cons_none nothing] at order
  refine { up with
    calm := fun item listed => calm item (source ▸ List.mem_cons_of_mem _ listed)
    order := ⟨lost, ?_, shut⟩
    inserted := inserted.trans up.inserted
    counted := ?_
    markers := ?_
    past := ?_
    signals := ?_ }
  · simpa only [hand, phase] using order
  · simp only [hand, phase]
    omega
  · simp only [markers]
    exact up.markers
  · simp [isPast, phase]
  · simp only [Signals, phase] at signals ⊢
    exact markers.trans signals

/-- A draw takes an element from those that are left, or turns to the end of the stream. -/
theorem draw (phase : p.phase = .drawing) (up : Supplying index start own p q) :
    Supplying index start own p.draw.1 q := by
  unfold Producer.draw
  split
  · next source => exact up.wrapUp phase source
  · next text rest source =>
    exact up.leaveOut phase source rfl rfl rfl (by simp only; omega)
  · next item rest source =>
    split
    · next panics => exact (up.calm item (source ▸ List.mem_cons_self) panics).elim
    · next seen checked =>
      have nothing : (Drawn.item item).passed? = none := by rw [Drawn.passed?, checked]
      exact up.leaveOut phase source nothing rfl rfl (by simp only; omega)
    · next seen checked =>
      have passes : (Drawn.item item).passed? = some seen := by rw [Drawn.passed?, checked]
      obtain ⟨lost, order, shut⟩ := up.order
      have counted := up.counted
      have nothing := up.signals
      simp only [hand, phase, List.append_nil, List.length_nil, source, List.length_cons]
        at order counted
      rw [List.filterMap_cons_some passes] at order
      simp only [Signals, phase] at nothing
      refine { up with
        calm := fun other listed => up.calm other (source ▸ List.mem_cons_of_mem _ listed)
        order := ⟨lost, ?_, shut⟩
        counted := ?_
        past := ?_
        signals := nothing }
      · simpa only [hand, List.append_assoc, List.singleton_append] using order
      · simp only [hand, List.length_cons, List.length_nil]
        omega
      · simp [isPast]

/-- An item that is refused is lost, and no item is supplied after it. -/
private theorem afterInsert {item : α} {reply : Reply α} {signal : Option Signal}
    (effect : SharedQueue.Effect q next (.insert item) (some reply) signal)
    (phase : p.phase = .inserting item) (plenty : reply ≠ .refused .allocation)
    (up : Supplying index start own p q) :
    Supplying index start (own ++ [⟨index, .insert item, some reply⟩]) (p.afterInsert reply).1
      next := by
  obtain ⟨lost, order, shut⟩ := up.order
  have counted := up.counted
  have inserted := up.inserted
  have markers := up.markers
  have nothing := up.signals
  simp only [hand, phase, List.length_singleton] at order counted
  simp only [Signals, phase] at nothing
  simp only [nothing, List.replicate_zero, List.append_nil] at markers
  obtain ⟨fault, refused, refusal⟩ | ⟨done, sound, opened, _⟩ := effect.of_adds rfl
  · cases refused
    have same : Visit.supplied (own ++ [⟨index, .insert item, some (.refused fault)⟩]) =
        Visit.supplied own := by simp [Visit.supplied, Visit.supplied?]
    have shutBefore : q.Shut := refusal.shut fun missing => plenty (missing ▸ rfl)
    refine { up with
      order := ⟨lost ++ [item], ?_, fun _ => effect.staysShut shutBefore⟩
      inserted := ?_
      counted := ?_
      markers := ?_
      past := ?_
      signals := nothing }
    · simpa [same, Producer.afterInsert, hand] using order
    · simpa [same, Producer.afterInsert] using inserted
    · simp only [Producer.afterInsert, hand, List.length_nil]
      omega
    · simp [same, Producer.afterInsert, nothing, markers, Visit.inserted?]
    · simp [Producer.afterInsert, isPast]
  · cases done
    have more : Visit.supplied (own ++ [⟨index, .insert item, some .done⟩]) =
        Visit.supplied own ++ [item] := by simp [Visit.supplied, Visit.supplied?]
    have kept : lost = [] := by
      by_contra something
      obtain poisoned | gone := shut something
      · simp [sound] at poisoned
      · exact gone opened
    subst kept
    refine { up with
      order := ⟨[], ?_, fun something => (something rfl).elim⟩
      inserted := ?_
      counted := ?_
      markers := ?_
      past := ?_
      signals := nothing }
    · simpa [more, Producer.afterInsert, hand] using order
    · simp [more, Producer.afterInsert, inserted]
    · simp only [Producer.afterInsert, hand, List.length_nil]
      omega
    · simp [more, Producer.afterInsert, nothing, markers, Visit.inserted?, Call.item?]
    · simp [Producer.afterInsert, isPast]

/-- Past the source, a critical section may add a marker and nothing else. -/
private theorem goOn {visit : Visit α} {phase : ProducerPhase α} {markers : Nat}
    (past : p.isPast = true) (stillPast : Producer.isPast { p with phase } = true)
    (staysShut : q.Shut → next.Shut) (brings : visit.supplied? = none)
    (marks : List.replicate p.report.markers QueueItem.marker ++ visit.inserted?.toList =
      List.replicate markers QueueItem.marker)
    (signals : Signals index (own ++ [visit])
      { p with phase, report := { p.report with markers } } next)
    (up : Supplying index start own p q) :
    Supplying index start (own ++ [visit])
      { p with phase, report := { p.report with markers } } next := by
  obtain ⟨lost, order, shut⟩ := up.order
  have counted := up.counted
  have same : Visit.supplied (own ++ [visit]) = Visit.supplied own := by
    simp [Visit.supplied, brings]
  have nothing : Producer.hand { p with phase, report := { p.report with markers } } = [] :=
    hand_of_isPast stillPast
  rw [hand_of_isPast past] at order counted
  refine { up with
    order := ⟨lost, ?_, fun something => staysShut (shut something)⟩
    inserted := ?_
    counted := ?_
    markers := ?_
    past := fun _ => up.past past
    signals }
  · rw [same, nothing]
    exact order
  · rw [same]
    exact up.inserted
  · rw [nothing]
    exact counted
  · rw [Visit.inserted_append, Visit.inserted_singleton, up.markers, List.append_assoc, marks, same]

/-- A marker is inserted after all items, or the queue is to be closed instead. -/
private theorem afterMarker {reply : Reply α} {signal : Option Signal}
    (effect : SharedQueue.Effect q next .insertMarker (some reply) signal)
    (phase : p.phase = .marking) (up : Supplying index start own p q) :
    Supplying index start (own ++ [⟨index, .insertMarker, some reply⟩]) (p.afterMarker reply).1
      next := by
  have past : p.isPast = true := by simp only [isPast, phase]
  have signals := up.signals
  simp only [Signals, phase] at signals
  obtain ⟨sentinel, fewer⟩ := signals
  obtain ⟨fault, refused, _⟩ | ⟨done, _⟩ := effect.of_adds rfl
  · cases refused
    exact up.goOn past rfl effect.staysShut rfl (List.append_nil _) (.inr ⟨sentinel, fewer⟩)
  · cases done
    have oneMore : List.replicate p.report.markers QueueItem.marker ++ [QueueItem.marker] =
        List.replicate (p.report.markers + 1) (QueueItem.marker : α) :=
      List.replicate_succ'.symm
    unfold Producer.afterMarker
    dsimp only
    split
    · next fewerStill =>
      refine up.goOn past ?_ effect.staysShut rfl oneMore ?_
      · exact past
      · simp only [Signals, phase]
        exact ⟨sentinel, fewerStill⟩
    · next enough =>
      have all : p.report.markers + 1 = p.consumers := by omega
      exact goOn (p := p) past rfl effect.staysShut rfl oneMore ⟨rfl, .inl ⟨sentinel, all⟩⟩ up

/-- The queue is closed in the end, or it is ruined. -/
private theorem afterClose {reply : Reply α} {signal : Option Signal}
    (effect : SharedQueue.Effect q next .close (some reply) signal)
    (phase : p.phase = .closing) (up : Supplying index start own p q) :
    Supplying index start (own ++ [⟨index, .close, some reply⟩]) (p.afterClose reply).1
      next := by
  have past : p.isPast = true := by simp only [isPast, phase]
  have short := up.signals
  simp only [Signals, phase] at short
  obtain ⟨fault, refused, ruin⟩ | ⟨done, shut⟩ := effect.of_closing
  · cases refused
    refine up.goOn past rfl effect.staysShut rfl (List.append_nil _) ⟨?_, effect.staysRuined ruin⟩
    exact List.getLast?_concat ..
  · cases done
    exact up.goOn past rfl effect.staysShut rfl (List.append_nil _) ⟨rfl, .inr ⟨shut, short⟩⟩

/-- What a producer is answered is accounted for. -/
theorem resume {call : Call α} {reply : Reply α} {signal : Option Signal}
    (effect : SharedQueue.Effect q next call (some reply) signal) (calls : p.call? = some call)
    (plenty : reply ≠ .refused .allocation) (up : Supplying index start own p q) :
    Supplying index start (own ++ [⟨index, call, some reply⟩]) (p.resume reply).1 next := by
  cases phase : p.phase with
  | drawing => simp [call?, phase] at calls
  | inserting item =>
    simp only [call?, phase, Option.some.injEq] at calls
    subst calls
    simp only [Producer.resume, phase]
    exact up.afterInsert effect phase plenty
  | marking =>
    simp only [call?, phase, Option.some.injEq] at calls
    subst calls
    simp only [Producer.resume, phase]
    exact up.afterMarker effect phase
  | closing =>
    simp only [call?, phase, Option.some.injEq] at calls
    subst calls
    simp only [Producer.resume, phase]
    exact up.afterClose effect phase
  | ended ending => simp [call?, phase] at calls

end Supplying

end Producer

namespace World

open Producer (Supplying)

variable [QueueItem α] [Sink σ α] {first w next last : World σ α} {event : Event} {index : Nat}
  {start p : Producer α} {own : List (Visit α)}

/-- Only removals wait. -/
private theorem removes_of_silent {seen : Visit α} (move : Move w next (some seen))
    (silent : seen.reply = none) :
    ∃ task, w.tasks[seen.index]? = some task ∧ task.call? = some .remove := by
  cases move with
  | visits here _ calls takes =>
    obtain ⟨rfl, _⟩ := takes.of_reply_none silent
    exact ⟨_, getElem?_tasks.mpr ⟨_, here, rfl⟩, calls⟩

/-- A move keeps the account of a producer, if memory is not missing. -/
theorem supplying_of_move {visit : Option (Visit α)} (move : Move w next visit)
    (plenty : ∀ seen, visit = some seen → seen.reply ≠ some (.refused .allocation))
    (here : w.tasks[index]? = some (.producer p)) (up : Supplying index start own p w.queue) :
    ∃ after, next.tasks[index]? = some (.producer after) ∧
      Supplying index start (own ++ Visit.by index visit.toList) after next.queue := by
  have bound := (List.getElem?_eq_some_iff.mp here).1
  cases move.act with
  | rests silent queue _ tasks =>
    have nothing : Visit.by index visit.toList = [] := by
      obtain rfl | ⟨place, call, rfl⟩ := silent
      · rfl
      · refine Visit.by_singleton_of_ne ?_
        rintro rfl
        obtain ⟨task, there, removes⟩ := removes_of_silent move rfl
        cases here.symm.trans there
        exact absurd (Task.mayRemove_of_call? removes) Bool.false_ne_true
    rw [nothing, List.append_nil, queue, tasks]
    exact ⟨p, here, up⟩
  | @calls place task call reply signal there calls effect _ tasks =>
    obtain rfl | apart := eq_or_ne place index
    · cases here.symm.trans there
      have own := Visit.by_singleton_self (α := α) ⟨place, call, some reply⟩
      refine ⟨(p.resume reply).1, ?_, ?_⟩
      · rw [tasks, List.getElem?_set_self bound]
        rfl
      · rw [Option.toList_some, own]
        exact up.resume effect calls fun missing => plenty _ rfl (missing ▸ rfl)
    · refine ⟨p, ?_, ?_⟩
      · rw [tasks, List.getElem?_set_ne apart]
        exact here
      · rw [Option.toList_some, Visit.by_singleton_of_ne apart, List.append_nil]
        exact up.beside effect
  | @draws place drawer there phase _ queue _ tasks =>
    rw [Option.toList_none, Visit.by_nil, List.append_nil, queue]
    obtain rfl | apart := eq_or_ne place index
    · cases here.symm.trans there
      exact ⟨p.draw.1, tasks ▸ List.getElem?_set_self bound, up.draw phase⟩
    · refine ⟨p, ?_, up⟩
      rw [tasks, List.getElem?_set_ne apart]
      exact here
  | @delivers place c item there _ queue _ tasks =>
    rw [Option.toList_none, Visit.by_nil, List.append_nil, queue]
    have apart : place ≠ index := by
      rintro rfl
      cases here.symm.trans there
    refine ⟨p, ?_, up⟩
    rw [tasks, List.getElem?_set_ne apart]
    exact here

/-- So does a run. -/
theorem supplying_of_replay? {events : List Event}
    (supplied : ∀ place, .shortage place ∉ events) (replayed : w.replay? events = some last)
    (here : w.tasks[index]? = some (.producer p)) (up : Supplying index start own p w.queue) :
    ∃ after, last.tasks[index]? = some (.producer after) ∧
      Supplying index start (own ++ Visit.by index (w.visits events)) after last.queue := by
  induction events generalizing w own p with
  | nil =>
    cases replayed
    rw [visits, Visit.by_nil, List.append_nil]
    exact ⟨p, here, up⟩
  | cons event rest ih =>
    obtain ⟨next, happens, later⟩ := Option.bind_eq_some_iff.mp replayed
    have plenty (seen : Visit α) (visited : w.visit? event = some seen) :=
      ne_allocation_of_supplied (fun place same => supplied place (same ▸ List.mem_cons_self))
        visited
    obtain ⟨after, there, step⟩ := supplying_of_move (move_of_next? happens) plenty here up
    obtain ⟨final, atEnd, account⟩ := ih (fun place listed =>
      supplied place (List.mem_cons_of_mem _ listed)) later there step
    refine ⟨final, atEnd, ?_⟩
    rw [visits_cons happens, Visit.by_append, ← List.append_assoc]
    exact account

/-- What a report of a producer that has inserted `items` and `markers` says. -/
structure Reported (source : List (Drawn α)) (termination : Termination) (consumers : Nat)
    (items : List α) (markers : Nat) (report : ProducerReport) (lifecycle : Lifecycle) : Prop where
  counted : report.inserted + report.dropped + report.sourceErrors = source.length
  inserted : report.inserted = items.length
  markers : report.markers = markers
  signalled : termination = .sentinel ∧ report.markers = consumers ∨
    lifecycle ≠ .opened ∧
      (termination = .close ∧ report.markers = 0 ∨
        termination = .sentinel ∧ report.markers < consumers)

/-- What the critical sections of the producer at a place have come to, and what it is then. -/
structure Supplied (source : List (Drawn α)) (termination : Termination) (consumers : Nat)
    (index : Nat) (own : List (Visit α)) (p : Producer α) (last : World σ α) : Prop where
  inOrder : Visit.supplied own <+: source.filterMap Drawn.passed?
  plain : ∀ (β : Type) (face : α → β) (isMarker : β → Bool), Steady face isMarker →
    ∀ item ∈ Visit.supplied own, isMarker (face item) = false
  forGood : own.Pairwise fun earlier later =>
    earlier.isRejected = true → later.call.item?.isSome → later.isRejected = true
  inserted : Visit.inserted own =
    Visit.supplied own ++ List.replicate p.report.markers QueueItem.marker
  finished : ∀ report, p.ending? = some (.finished report) →
    Reported source termination consumers (Visit.supplied own) p.report.markers report
      last.queue.lifecycle
  failed : ∀ fault, p.ending? = some (.failed fault) →
    own.getLast? = some ⟨index, .close, some (.refused fault)⟩ ∧ last.queue.Ruin fault
  calm : p.ending? ≠ some .panicked

/-- Around any queue, whatever the others do, as long as memory is not missing and the producer's own
marker checks do not panic: the items that a producer puts into the queue are the first ones that
its source brings, in order, and none of them is a marker; once an insertion has been refused all
later ones are; and the markers come after all items. A producer that ends with a report has
accounted for every element of its source, and has inserted all markers, or the queue is not open
any more and it is short of markers, of which it inserts none if it was to close the queue. It fails
only if it could not close the queue in the end, because that is destroyed or poisoned. -/
theorem source_supplied {source : List (Drawn α)} {termination : Termination} {consumers : Nat}
    {events : List Event}
    (begins : first.tasks[index]? = some (.producer { source, termination, consumers }))
    (calm : ∀ item, .item item ∈ source → QueueItem.inspect item ≠ .panicked)
    (supplied : ∀ place, .shortage place ∉ events) (replayed : first.replay? events = some last) :
    ∃ p, last.tasks[index]? = some (.producer p) ∧
      Supplied source termination consumers index (Visit.by index (first.visits events)) p last := by
  obtain ⟨p, there, up⟩ :=
    supplying_of_replay? supplied replayed begins (Supplying.begin calm first.queue)
  rw [List.nil_append] at up
  obtain ⟨lost, order, _⟩ := up.order
  have inOrder : Visit.supplied (Visit.by index (first.visits events)) <+:
      source.filterMap Drawn.passed? := by
    rw [← order, List.append_assoc, List.append_assoc]
    exact List.prefix_append _ _
  have signals := up.signals
  refine ⟨p, there, {
    inOrder
    plain := ?plain
    forGood := (rejected_for_good supplied replayed).2.filter _
    inserted := up.markers
    finished := ?finished
    failed := ?failed
    calm := ?calm }⟩
  case plain =>
    intro β face isMarker steady item listed
    exact Drawn.not_marker_of_passed steady (inOrder.subset listed)
  case finished =>
    intro report ended
    have phase := Producer.phase_of_ending? ended
    have past : p.isPast = true := by simp only [Producer.isPast, phase]
    have counted := up.counted
    have consumersSame := up.consumers
    have terminationSame := up.termination
    rw [Producer.hand_of_isPast past, up.past past] at counted
    simp only [Producer.Signals, phase, Producer.FallsShort] at signals
    obtain ⟨rfl, signals⟩ := signals
    rw [terminationSame, consumersSame] at signals
    exact ⟨counted, up.inserted, rfl, signals⟩
  case failed =>
    intro fault ended
    have phase := Producer.phase_of_ending? ended
    simpa only [Producer.Signals, phase] using signals
  case calm =>
    intro ended
    have phase := Producer.phase_of_ending? ended
    simp only [Producer.Signals, phase] at signals

/-- A producer of two readings, a failure and a marker for two consumers, and a thread that closes the
queue. -/
private def closedEarly : World Scenario.RuledSink Scenario.FusedReading where
  queue := .empty
  sink := ⟨{}, false⟩
  threads :=
    [{ name := "producer"
       task := .producer
        { source :=
            [.item ⟨⟨7, ⟨0⟩, 0⟩, some 2⟩, .failure "torn", .item QueueItem.marker,
              .item ⟨⟨8, ⟨0⟩, 0⟩, none⟩]
          termination := .sentinel, consumers := 2 } },
      { name := "closer", task := .caller [.close] [] }]

/-- The queue is closed when the first marker has been inserted. -/
private def closingEarly : List Event :=
  List.replicate 11 (.step 0 0) ++ .step 1 0 :: List.replicate 2 (.step 0 0)

private def shutEarly : World Scenario.RuledSink Scenario.FusedReading :=
  (closedEarly.replay? closingEarly).get (by decide +kernel)

/-- Both readings are supplied, the failure and the marker are not, and one marker is missing. -/
theorem source_supplied_closed_early :
    ∃ p, shutEarly.tasks[0]? = some (.producer p) ∧ p.ending? = some (.finished ⟨2, 1, 1, 1⟩) ∧
      Visit.supplied (Visit.by 0 (closedEarly.visits closingEarly)) =
        [⟨⟨7, ⟨0⟩, 0⟩, some 1⟩, ⟨⟨8, ⟨0⟩, 0⟩, none⟩] ∧
      2 + 1 + 1 = 4 ∧ 1 < 2 ∧ shutEarly.queue.lifecycle ≠ .opened := by
  have replayed : closedEarly.replay? closingEarly = some shutEarly := (Option.some_get _).symm
  have calm : ∀ item, Drawn.item item ∈
      [Drawn.item (⟨⟨7, ⟨0⟩, 0⟩, some 2⟩ : Scenario.FusedReading), .failure "torn",
        .item QueueItem.marker, .item ⟨⟨8, ⟨0⟩, 0⟩, none⟩] →
      QueueItem.inspect item ≠ .panicked := by
    intro item listed
    simp only [List.mem_cons, Drawn.item.injEq, List.not_mem_nil, or_false, reduceCtorEq,
      false_or] at listed
    obtain rfl | rfl | rfl := listed <;> decide
  have begins : closedEarly.tasks[0]? = some (.producer
      { source :=
          [.item ⟨⟨7, ⟨0⟩, 0⟩, some 2⟩, .failure "torn", .item QueueItem.marker,
            .item ⟨⟨8, ⟨0⟩, 0⟩, none⟩]
        termination := .sentinel, consumers := 2 }) := rfl
  obtain ⟨p, there, account⟩ := source_supplied begins calm (by simp [closingEarly]) replayed
  have known : shutEarly.tasks[0]? = some (.producer
      { source := [], termination := .sentinel, consumers := 2, index := 4
        report := ⟨2, 1, 1, 1⟩, phase := .ended (.finished ⟨2, 1, 1, 1⟩) }) := by decide +kernel
  have ended : p.ending? = some (.finished ⟨2, 1, 1, 1⟩) := by
    rw [there, Option.some.injEq, Task.producer.injEq] at known
    rw [known]
    rfl
  have reported := account.finished _ ended
  obtain ⟨_, all⟩ | ⟨shut, ⟨close, _⟩ | ⟨_, few⟩⟩ := reported.signalled
  · cases all
  · cases close
  · have both := account.inOrder.eq_of_length reported.inserted.symm
    exact ⟨p, there, ended, both, reported.counted, few, shut⟩

end World

end SensorRelay
