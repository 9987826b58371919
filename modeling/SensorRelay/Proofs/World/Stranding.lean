import SensorRelay.Proofs.World.Task
import SensorRelay.Reading.Writer

/-! # Nobody is left waiting after a producer

A producer ends its stream with one marker per consumer, or by closing the queue. The first marker
stays in an open queue (`Sealed`), so nobody parks after it, and each marker brings a notification
of one: the threads that are parked and the markers of the producer are never more than its
consumers and the notifications that are owed (`Served.covered`). When all markers are inserted and
nothing is owed, nobody is parked. If a marker is refused, the queue gets closed, or is not open
any more.
-/

namespace SensorRelay

variable {σ α β : Type} [QueueItem α] {face : α → β} {isMarker : β → Bool}

namespace SharedQueue

/-- An open queue holds a marker. -/
def Sealed (face : α → β) (isMarker : β → Bool) (q : SharedQueue α) : Prop :=
  q.lifecycle = .opened → ∃ item ∈ q.list, isMarker (face item) = true

variable {q next : SharedQueue α} {call : Call α} {reply : Option (Reply α)}
  {signal : Option Signal}

theorem Effect.wasOpened (effect : Effect q next call reply signal)
    (opened : next.lifecycle = .opened) : q.lifecycle = .opened := by
  obtain same | ⟨_, _, shut, _⟩ := effect.lifecycle_eq
  · exact same ▸ opened
  · exact (shut opened).elim

/-- A marker stays in an open queue. -/
theorem Effect.keepsSealed (steady : Steady face isMarker)
    (effect : Effect q next call reply signal) (held : q.Sealed face isMarker) :
    next.Sealed face isMarker := by
  intro opened
  obtain ⟨item, listed, isOne⟩ := held (effect.wasOpened opened)
  cases effect with
  | refused same => exact ⟨item, same ▸ listed, isOne⟩
  | inserted _ _ _ _ _ items => exact ⟨item, items ▸ List.mem_append_left _ listed, isOne⟩
  | waits same => exact ⟨item, same ▸ listed, isOne⟩
  | removed _ _ checked items =>
    rw [items, List.mem_cons] at listed
    obtain rfl | listed := listed
    · rw [← steady.tells checked] at isOne
      cases isOne
    · exact ⟨item, listed, isOne⟩
  | @metMarker _ seen _ _ _ checked _ itemsAfter =>
    have verdict := steady.tells checked
    rw [← steady.keeps checked] at verdict
    exact ⟨seen, itemsAfter ▸ List.mem_cons_self, verdict.symm⟩
  | drained same => exact ⟨item, same ▸ listed, isOne⟩
  | closed _ _ _ lifecycle => simp [opened] at lifecycle
  | closedBefore same => exact ⟨item, same ▸ listed, isOne⟩
  | destroyed _ _ _ lifecycle => simp [opened] at lifecycle
  | counted same => exact ⟨item, same ▸ listed, isOne⟩
  | judged same => exact ⟨item, same ▸ listed, isOne⟩
  | @peeked head seen rest _ _ checked items itemsAfter =>
    rw [items, List.mem_cons] at listed
    rw [itemsAfter]
    obtain rfl | listed := listed
    · exact ⟨seen, List.mem_cons_self, by rw [steady.keeps checked, isOne]⟩
    · exact ⟨item, List.mem_cons_of_mem _ listed, isOne⟩
  | panicked _ _ _ _ poisons => exact ⟨item, poisons ▸ listed, isOne⟩

/-- A marker that is put into a queue seals it. -/
theorem Effect.seals (marks : isMarker (face QueueItem.marker) = true)
    (effect : Effect q next .insertMarker (some .done) signal) :
    signal = some .one ∧ next.Sealed face isMarker := by
  cases effect with
  | inserted adds _ _ _ _ items =>
    cases adds
    exact ⟨rfl, fun _ => ⟨QueueItem.marker,
      items ▸ List.mem_append_right _ (List.mem_singleton_self _), marks⟩⟩

theorem Sealed.reply_ne_none {q : SharedQueue α} (held : q.Sealed face isMarker)
    (place : Monitor.Fault) (call : Call α) : (q.perform place call).reply ≠ none := by
  intro silent
  obtain ⟨_, _, opened, items⟩ := (q.effect_perform place call).of_reply_none silent
  obtain ⟨item, listed, _⟩ := held opened
  simp [items] at listed

end SharedQueue

namespace Producer

/-- How many markers a producer has inserted in its phase. Once it has ended, all of them have been
inserted if the queue is still open. -/
def Counts (q : SharedQueue α) (p : Producer α) : Prop :=
  match p.phase with
  | .drawing | .inserting _ => p.report.markers = 0
  | .marking | .closing => p.report.markers < p.consumers
  | .ended _ => p.report.markers ≤ p.consumers ∧
      (q.lifecycle = .opened → p.report.markers = p.consumers)

variable {p : Producer α} {q next : SharedQueue α}

omit [QueueItem α] in
theorem Counts.le (counts : p.Counts q) : p.report.markers ≤ p.consumers := by
  unfold Counts at counts
  split at counts <;> omega

omit [QueueItem α] in
theorem Counts.of_lifecycle (counts : p.Counts q)
    (wasOpened : next.lifecycle = .opened → q.lifecycle = .opened) : p.Counts next := by
  cases phase : p.phase with
  | ended ending =>
    simp only [Counts, phase] at counts ⊢
    exact ⟨counts.1, fun opened => counts.2 (wasOpened opened)⟩
  | _ =>
    simp only [Counts, phase] at counts ⊢
    exact counts

/-- Drawing inserts no marker. -/
theorem Counts.draw (calm : Calm α) (someone : 1 ≤ p.consumers) (phase : p.phase = .drawing)
    (counts : p.Counts q) :
    p.draw.1.Counts q ∧ p.draw.1.report.markers = p.report.markers ∧
      p.draw.1.consumers = p.consumers := by
  have unmarked : p.report.markers = 0 := by simpa only [Counts, phase] using counts
  unfold Producer.draw
  split
  · unfold wrapUp
    split
    · exact ⟨show p.report.markers < p.consumers by omega, rfl, rfl⟩
    · next nobody => omega
    · exact ⟨show p.report.markers < p.consumers by omega, rfl, rfl⟩
  · exact ⟨by simpa only [Counts, phase] using unmarked, rfl, rfl⟩
  · split
    · next checked => exact (calm _ checked).elim
    · exact ⟨by simpa only [Counts, phase] using unmarked, rfl, rfl⟩
    · exact ⟨unmarked, rfl, rfl⟩

/-- An insertion of a marker is counted if it is done. -/
private theorem Counts.afterMarker {reply : Reply α} {signal : Option Signal}
    (effect : SharedQueue.Effect q next .insertMarker (some reply) signal)
    (phase : p.phase = .marking) (fewer : p.report.markers < p.consumers) :
    (p.afterMarker reply).1.Counts next ∧ (p.afterMarker reply).1.consumers = p.consumers ∧
      ((p.afterMarker reply).1.report.markers = p.report.markers ∨
        (p.afterMarker reply).1.report.markers = p.report.markers + 1 ∧ reply = .done) := by
  cases effect with
  | refused => exact ⟨fewer, rfl, .inl rfl⟩
  | inserted =>
    unfold Producer.afterMarker
    dsimp only
    split
    · next fewerStill =>
      exact ⟨by simpa only [Counts, phase] using fewerStill, rfl, .inr ⟨rfl, rfl⟩⟩
    · next enough =>
      have all : p.report.markers + 1 = p.consumers := by omega
      exact ⟨⟨Nat.le_of_eq all, fun _ => all⟩, rfl, .inr ⟨rfl, rfl⟩⟩
  | judged _ _ asks => simp at asks
  | panicked _ checks => simp at checks

/-- A call of a producer inserts one marker at most, and none but its own. -/
theorem Counts.resume {call : Call α} {reply : Reply α} {signal : Option Signal}
    (effect : SharedQueue.Effect q next call (some reply) signal) (calls : p.call? = some call)
    (sound : q.poisoned = false) (counts : p.Counts q) :
    (p.resume reply).1.Counts next ∧ (p.resume reply).1.consumers = p.consumers ∧
      ((p.resume reply).1.report.markers = p.report.markers ∨
        (p.resume reply).1.report.markers = p.report.markers + 1 ∧
          call = .insertMarker ∧ reply = .done) := by
  cases phase : p.phase with
  | drawing => simp [call?, phase] at calls
  | inserting item =>
    simp only [Counts, phase] at counts
    have step : p.resume reply = p.afterInsert reply := by simp only [Producer.resume, phase]
    rw [step]
    unfold afterInsert
    split <;> exact ⟨counts, rfl, .inl rfl⟩
  | marking =>
    simp only [Counts, phase] at counts
    simp only [call?, phase, Option.some.injEq] at calls
    subst calls
    have step : p.resume reply = p.afterMarker reply := by simp only [Producer.resume, phase]
    rw [step]
    obtain ⟨after, same, still | ⟨more, done⟩⟩ := Counts.afterMarker effect phase counts
    · exact ⟨after, same, .inl still⟩
    · exact ⟨after, same, .inr ⟨more, rfl, done⟩⟩
  | closing =>
    simp only [Counts, phase] at counts
    simp only [call?, phase, Option.some.injEq] at calls
    subst calls
    have step : p.resume reply = p.afterClose reply := by simp only [Producer.resume, phase]
    have shut := effect.shuts sound
    rw [step]
    unfold afterClose
    split <;>
      exact ⟨⟨Nat.le_of_lt counts, fun opened => absurd opened shut⟩, rfl, .inl rfl⟩
  | ended ending => simp [call?, phase] at calls

end Producer

namespace World

variable [Sink σ α]

/-- A world with a producer at a place that has a marker for each thread that might wait for one. -/
structure Served (face : α → β) (isMarker : β → Bool) (index : Nat) (p : Producer α)
    (w : World σ α) : Prop extends Orderly w where
  there : w.tasks[index]? = some (.producer p)
  someone : 1 ≤ p.consumers
  few : w.removers ≤ p.consumers
  counts : p.Counts w.queue
  held : 0 < p.report.markers → w.queue.Sealed face isMarker
  covered : w.tally .parked + p.report.markers ≤ p.consumers + w.tally (.owing .one)

/-- Unless nobody is parked afterwards or the queue was empty, as many threads at least have parked
less as notify less. -/
theorem Move.slack {w next : World σ α} {visit : Option (Visit α)} (move : Move w next visit) :
    next.tally .parked = 0 ∨ (w.queue.lifecycle = .opened ∧ w.queue.list = []) ∨
      next.tally .parked + w.tally (.owing .one) ≤ w.tally .parked + next.tally (.owing .one) := by
  cases visit with
  | none =>
    obtain counts | counts | counts := move.tally
    · have parked := counts .parked (by simp)
      have owing := counts (.owing .one) (by simp)
      omega
    · exact .inl counts
    · omega
  | some visit =>
    cases move with
    | @visits _ _ _ outcome here awake _ takes _ _ threads =>
      cases answer : outcome.reply with
      | none => exact .inr (.inl (takes.of_reply_none answer).2.2)
      | some reply =>
        obtain ⟨parked, _, owing⟩ := tally_of_answered here awake (by simp [answer]) threads
        omega

variable {index : Nat} {p : Producer α} {w next : World σ α} {visit : Option (Visit α)}

omit [QueueItem α] [Sink σ α] in
private theorem sealed_of_empty (held : 0 < p.report.markers → w.queue.Sealed face isMarker)
    (opened : w.queue.lifecycle = .opened) (items : w.queue.list = []) : p.report.markers = 0 := by
  by_contra markers
  obtain ⟨item, listed, _⟩ := held (Nat.pos_of_ne_zero markers) opened
  simp [items] at listed

private theorem wasOpened_of_move (move : Move w next visit)
    (opened : next.queue.lifecycle = .opened) : w.queue.lifecycle = .opened := by
  obtain ⟨_, same⟩ | ⟨_, _, _, _, _, effect⟩ := move.effect
  · exact same ▸ opened
  · exact effect.wasOpened opened

private theorem sealed_of_move (steady : Steady face isMarker) (move : Move w next visit)
    (held : w.queue.Sealed face isMarker) : next.queue.Sealed face isMarker := by
  obtain ⟨_, same⟩ | ⟨_, _, _, _, _, effect⟩ := move.effect
  · exact same ▸ held
  · exact effect.keepsSealed steady held

/-- A move keeps a producer served if it goes on with the markers that it has, or with one more that
is in the queue and owes a notification. -/
private theorem Served.goesOn (calm : Calm α) (steady : Steady face isMarker)
    (move : Move w next visit) (served : Served face isMarker index p w) {later : Producer α}
    (there : next.tasks[index]? = some (.producer later)) (counts : later.Counts next.queue)
    (consumers : later.consumers = p.consumers)
    (markers : later.report.markers = p.report.markers ∨
      later.report.markers = p.report.markers + 1 ∧ next.queue.Sealed face isMarker ∧
        next.tally .parked = w.tally .parked ∧
        next.tally (.owing .one) = w.tally (.owing .one) + 1) :
    Served face isMarker index later next := by
  have orderly := served.toOrderly.of_move calm move
  have few : next.removers ≤ later.consumers :=
    consumers ▸ Nat.le_trans move.act.removers_le served.few
  have covered := served.covered
  have someone : 1 ≤ later.consumers := consumers ▸ served.someone
  refine { orderly with there, someone, few, counts, held := ?_, covered := ?_ }
  · intro marked
    obtain same | ⟨_, held, _⟩ := markers
    · exact sealed_of_move steady move (served.held (same ▸ marked))
    · exact held
  · obtain same | ⟨more, _, parked, owing⟩ := markers
    · obtain nobody | ⟨opened, items⟩ | slack := move.slack
      · have := counts.le
        omega
      · have := sealed_of_empty served.held opened items
        have := orderly.parked_le
        omega
      · omega
    · omega

/-- Every move keeps the producer served. -/
theorem Served.of_move (calm : Calm α) (steady : Steady face isMarker)
    (marks : isMarker (face QueueItem.marker) = true) (move : Move w next visit)
    (served : Served face isMarker index p w) :
    ∃ later, Served face isMarker index later next := by
  have counts := served.counts.of_lifecycle (wasOpened_of_move move)
  have other {place : Nat} {task : Task α} (tasks : next.tasks = w.tasks.set place task)
      (apart : place ≠ index) : Served face isMarker index p next := by
    refine served.goesOn calm steady move ?_ counts rfl (.inl rfl)
    rw [tasks, List.getElem?_set_ne apart, served.there]
  have own {task : Task α} (tasks : next.tasks = w.tasks.set index task) :
      next.tasks[index]? = some task :=
    tasks ▸ List.getElem?_set_self (List.getElem?_eq_some_iff.mp served.there).1
  cases move.act with
  | rests _ _ _ tasks =>
    exact ⟨p, served.goesOn calm steady move (tasks ▸ served.there) counts rfl (.inl rfl)⟩
  | @calls place task call reply signal here calls effect _ tasks parked owing =>
    obtain apart | rfl := ne_or_eq place index
    · exact ⟨p, other tasks apart⟩
    rw [served.there, Option.some.injEq] at here
    subst here
    obtain ⟨counts, consumers, markers⟩ := served.counts.resume effect calls served.sound
    refine ⟨_, served.goesOn calm steady move (own tasks) counts consumers (markers.imp_right ?_)⟩
    rintro ⟨more, rfl, rfl⟩
    obtain ⟨rfl, held⟩ := effect.seals marks
    exact ⟨more, held, parked, owing⟩
  | @draws place drawer here phase _ queue _ tasks =>
    obtain apart | rfl := ne_or_eq place index
    · exact ⟨p, other tasks apart⟩
    rw [served.there, Option.some.injEq, Task.producer.injEq] at here
    subst here
    obtain ⟨counts, markers, consumers⟩ := counts.draw calm served.someone phase
    exact ⟨_, served.goesOn calm steady move (own tasks) counts consumers (.inl markers)⟩
  | @delivers place c item here _ _ _ tasks =>
    refine ⟨p, other tasks ?_⟩
    rintro rfl
    rw [served.there] at here
    cases here

omit [QueueItem α] [Sink σ α] in
/-- A producer that begins is served if there is no remover more than it has consumers. -/
theorem Fresh.served {first : World σ α} {source : List (Drawn α)} {termination : Termination}
    {consumers : Nat} (fresh : Fresh first)
    (begins : first.tasks[index]? = some (.producer { source, termination, consumers }))
    (someone : 1 ≤ consumers) (few : first.removers ≤ consumers) :
    Served face isMarker index { source, termination, consumers } first :=
  { fresh.orderly with
    there := begins
    someone, few
    counts := rfl
    held := fun markers => absurd markers (Nat.lt_irrefl 0)
    covered := by
      have nobody : first.tally .parked = 0 := fresh.tally (by simp)
      rw [nobody]
      exact Nat.zero_le _ }

/-- Nobody is parked, and nobody will park. -/
structure Released (face : α → β) (isMarker : β → Bool) (w : World σ α) : Prop where
  nobody : w.parked = []
  held : w.queue.Sealed face isMarker

theorem Released.of_move (steady : Steady face isMarker) (move : Move w next visit)
    (released : Released face isMarker w) : Released face isMarker next where
  nobody := by
    have fewer := move.tally_parked_le fun opened items => by
      obtain ⟨item, listed, _⟩ := released.held opened
      simp [items] at listed
    rw [← length_parked, ← length_parked, released.nobody] at fewer
    exact List.length_eq_zero_iff.mp (Nat.le_zero.mp fewer)
  held := sealed_of_move steady move released.held

omit [QueueItem α] [Sink σ α] in
/-- Once a producer has ended and no notification is owed, nobody is parked. -/
theorem Served.released (served : Served face isMarker index p w) {ending : Ending ProducerReport}
    (ended : p.phase = .ended ending)
    (quiet : ∀ signal, w.tally (.owing signal) = 0) :
    Released face isMarker w := by
  have counts := served.counts
  simp only [Producer.Counts, ended] at counts
  have nobody : w.tally .parked = 0 := by
    by_contra somebody
    obtain opened | shut := eq_or_ne w.queue.lifecycle .opened
    · have all := counts.2 opened
      have covered := served.covered
      have := quiet .one
      omega
    · have owed := served.owed shut (Nat.pos_of_ne_zero somebody)
      have := quiet .all
      omega
  refine ⟨List.length_eq_zero_iff.mp ((length_parked w).trans nobody), fun opened => ?_⟩
  have marked : 0 < p.report.markers := by
    have all := counts.2 opened
    have := served.someone
    omega
  exact served.held marked opened

/-- Around a new queue, with a producer that has markers for at least one consumer and for all
threads that might remove something, whatever the others do: once the producer has ended and no
notification is owed, nobody is parked, nobody parks later on, and no removal would have to wait. -/
theorem nobody_stranded (calm : Calm α) (steady : Steady face isMarker)
    (marks : isMarker (face QueueItem.marker) = true) {first : World σ α}
    {source : List (Drawn α)} {termination : Termination} {consumers : Nat}
    {ending : Ending ProducerReport} (fresh : Fresh first)
    (begins : first.tasks[index]? = some (.producer { source, termination, consumers }))
    (someone : 1 ≤ consumers) (few : first.removers ≤ consumers) (reached : Reaches first w)
    (there : w.tasks[index]? = some (.producer p)) (ended : p.phase = .ended ending)
    (quiet : ∀ signal, w.tally (.owing signal) = 0) :
    w.parked = [] ∧ ∀ later, Reaches w later → later.parked = [] ∧
      ∀ place, (later.queue.perform place .remove).reply ≠ none := by
  obtain ⟨q, served⟩ := invariant_of_reaches
    (fun w => ∃ p, Served face isMarker index p w)
    (fun move ⟨_, served⟩ => served.of_move calm steady marks move)
    ⟨_, fresh.served begins someone few⟩ reached
  have same := served.there
  rw [there, Option.some.injEq, Task.producer.injEq] at same
  subst same
  have released := served.released ended quiet
  refine ⟨released.nobody, fun later onward => ?_⟩
  have still := invariant_of_reaches (Released face isMarker)
    (fun move released => released.of_move steady move) released onward
  exact ⟨still.nobody, fun place => still.held.reply_ne_none place .remove⟩

/-- A producer of one reading, and two consumers. -/
private def supplying : World LineSink Reading where
  queue := .empty
  sink := ⟨{ device := {} }, false⟩
  threads :=
    [{ name := "producer"
       task := .producer
        { source := [.item ⟨7, ⟨0⟩, 0⟩], termination := .sentinel, consumers := 2 } },
      { name := "first consumer", task := .consumer (.start "first consumer" .standard) },
      { name := "second consumer", task := .consumer (.start "second consumer" .standard) }]

/-- Both consumers park, the first one is woken for the reading and the second one for a marker, and
the producer goes on until it has ended. -/
private def supplied : List Event :=
  [.step 1 0, .step 2 0, .step 0 0, .step 0 0, .step 0 0, .step 0 0, .step 0 0, .step 0 0,
    .step 0 0, .step 0 0]

private def supplyingEnd : World LineSink Reading :=
  (supplying.replay? supplied).get (by decide)

/-- Both consumers are woken when the producer has inserted its markers. -/
theorem nobody_stranded_supplying :
    supplyingEnd.tally .woken = 2 ∧ supplyingEnd.parked = [] ∧
      ∀ later, Reaches supplyingEnd later → later.parked = [] ∧
        ∀ place, (later.queue.perform place .remove).reply ≠ none := by
  have replayed : supplying.replay? supplied = some supplyingEnd := (Option.some_get _).symm
  have there : supplyingEnd.tasks[0]? = some (.producer
      { source := [], termination := .sentinel, consumers := 2, index := 1
        report := { inserted := 1, markers := 2 }
        phase := .ended (.finished { inserted := 1, markers := 2 }) }) := by decide
  have quiet : ∀ signal, supplyingEnd.tally (.owing signal) = 0 := by rintro (_ | _) <;> decide
  have begins : supplying.tasks[0]? = some (.producer
      { source := [.item ⟨7, ⟨0⟩, 0⟩], termination := .sentinel, consumers := 2 }) := rfl
  exact ⟨by decide, nobody_stranded calm_reading steady_reading rfl ⟨rfl, by decide⟩ begins
    (by decide) (by decide) (reaches_of_replay? replayed) there rfl quiet⟩

end World

end SensorRelay
