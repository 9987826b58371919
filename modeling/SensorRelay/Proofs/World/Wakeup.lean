import SensorRelay.Proofs.World.Standing
import SensorRelay.Reading.Writer

/-! # No wake-up is lost

As long as no marker is inserted, an insertion owes one notification for its item. So while somebody
is parked at an open queue, no more items are queued than notifications are owed and removers are on
their way (`Attended.covered`): a remover that is not woken takes an item and no notification, one
that is woken takes an item with it, and one that parks has found nothing. At a queue that is not
open, the thread that has shut it owes the notification of everybody as long as somebody is parked.
-/

namespace SensorRelay

variable {σ α β : Type} [QueueItem α] {face : α → β} {isMarker : β → Bool}

namespace SharedQueue

variable {q next : SharedQueue α} {call : Call α} {reply : Option (Reply α)}
  {signal : Option Signal}

/-- Marker checks and insertions of other items bring no marker into a queue. -/
theorem Effect.plain (steady : Steady face isMarker) (effect : Effect q next call reply signal)
    (plain : ∀ item ∈ q.list, isMarker (face item) = false) {index : Nat}
    (plainCall : ∀ item ∈ Visit.inserted [⟨index, call, reply⟩], isMarker (face item) = false) :
    ∀ item ∈ next.list, isMarker (face item) = false := by
  cases effect with
  | refused same => exact same ▸ plain
  | inserted adds _ _ _ _ items =>
    rw [items]
    intro item listed
    obtain listed | listed := List.mem_append.mp listed
    · exact plain item listed
    · exact plainCall item (by simpa [Visit.inserted?, adds] using List.mem_singleton.mp listed)
  | waits same => exact same ▸ plain
  | removed _ _ _ items =>
    exact fun item listed => plain item (items ▸ List.mem_cons_of_mem _ listed)
  | metMarker _ _ checked items itemsAfter =>
    rw [items, List.forall_mem_cons] at plain
    rw [itemsAfter, List.forall_mem_cons]
    exact ⟨steady.keeps checked ▸ plain.1, plain.2⟩
  | drained same => exact same ▸ plain
  | closed _ _ _ _ items => exact items ▸ plain
  | closedBefore same => exact same ▸ plain
  | destroyed _ _ _ _ items => simp [items]
  | counted same => exact same ▸ plain
  | judged same => exact same ▸ plain
  | peeked _ checked items itemsAfter =>
    rw [items, List.forall_mem_cons] at plain
    rw [itemsAfter, List.forall_mem_cons]
    exact ⟨steady.keeps checked ▸ plain.1, plain.2⟩
  | panicked _ _ _ _ poisons => exact poisons ▸ plain

/-- A call at an open queue without markers finds nothing, takes one item, or is no removal and owes
a notification for an item that it adds. -/
theorem Effect.length_opened (calm : Calm α) (steady : Steady face isMarker)
    (effect : Effect q next call reply signal) (sound : q.poisoned = false)
    (plain : ∀ item ∈ q.list, isMarker (face item) = false)
    (opened : next.lifecycle = .opened) :
    q.lifecycle = .opened ∧
      (next.list = [] ∨
        (reply ≠ none ∧ q.list.length = next.list.length + 1) ∨
        (reply ≠ none ∧ call ≠ .remove ∧
          next.list.length ≤ q.list.length + if signal = some .one then 1 else 0)) := by
  cases effect with
  | @refused _ fault same refusal =>
    subst same
    refine ⟨opened, .inr (.inr ⟨nofun, ?_, by simp⟩)⟩
    rintro rfl
    obtain poisoned | gone := refusal.gone rfl
    · simp [sound] at poisoned
    · simp [opened] at gone
  | inserted adds _ wasOpened _ _ items =>
    refine ⟨wasOpened, .inr (.inr ⟨nofun, ?_, by simp [items]⟩)⟩
    rintro rfl
    cases adds
  | waits same _ wasOpened items => exact ⟨wasOpened, .inl (same ▸ items)⟩
  | removed _ _ _ items _ lifecycle =>
    exact ⟨lifecycle ▸ opened, .inr (.inl ⟨nofun, by simp [items]⟩)⟩
  | metMarker _ _ checked items =>
    have verdict := steady.tells checked
    simp [items, ← verdict] at plain
  | drained same _ closed => simp [← same, opened] at closed
  | closed _ _ _ lifecycle => simp [opened] at lifecycle
  | closedBefore same _ closed => simp [← same, opened] at closed
  | destroyed _ _ _ lifecycle => simp [opened] at lifecycle
  | counted same => exact ⟨same ▸ opened, .inr (.inr ⟨nofun, nofun, by simp [same]⟩)⟩
  | judged same _ asks =>
    refine ⟨same ▸ opened, .inr (.inr ⟨nofun, ?_, by simp [same]⟩)⟩
    rintro rfl
    simp at asks
  | peeked _ _ items itemsAfter _ lifecycle =>
    exact ⟨lifecycle ▸ opened, .inr (.inr ⟨nofun, nofun, by simp [items, itemsAfter]⟩)⟩
  | panicked _ _ checked => exact (calm _ checked).elim

end SharedQueue

namespace World

variable [Sink σ α]

/-- An orderly world without markers, in which notifications and removers on their way cover the
items of an open queue while somebody is parked. -/
structure Attended (face : α → β) (isMarker : β → Bool) (w : World σ α) : Prop extends
    Orderly w where
  plain : ∀ item ∈ w.queue.list, isMarker (face item) = false
  covered : w.queue.lifecycle = .opened → 0 < w.tally .parked →
    w.queue.list.length ≤ w.tally (.owing .one) + w.tally .woken

private theorem covered_of_visit (calm : Calm α) (steady : Steady face isMarker)
    {w next : World σ α} {visit : Visit α} (move : Move w next (some visit))
    (attended : Attended face isMarker w) (opened : next.queue.lifecycle = .opened)
    (somebody : 0 < next.tally .parked) :
    next.queue.list.length ≤ next.tally (.owing .one) + next.tally .woken := by
  cases move with
  | @visits index thread call outcome here awake calls takes queue _ threads =>
    rw [queue] at opened ⊢
    obtain ⟨wasOpened, counts⟩ :=
      takes.length_opened calm steady attended.sound attended.plain opened
    obtain nothing | ⟨answered, length⟩ | ⟨answered, other, length⟩ := counts
    · simp [nothing]
    · obtain ⟨parked, woken, one⟩ := tally_of_answered here awake answered threads
      have before := attended.covered wasOpened (by omega)
      split at woken <;> split at one <;> omega
    · obtain ⟨parked, woken, one⟩ := tally_of_answered here awake answered threads
      have before := attended.covered wasOpened (by omega)
      have ready : thread.standing ≠ .woken := by
        intro standing
        have waits := attended.waiting thread (List.mem_of_getElem? here) (.inr standing)
        rw [calls, Option.some.injEq] at waits
        exact other waits
      rw [if_neg ready] at woken
      omega

/-- Every move that inserts no marker keeps a world attended. -/
theorem Attended.of_move (calm : Calm α) (steady : Steady face isMarker) {w next : World σ α}
    {visit : Option (Visit α)} (move : Move w next visit)
    (plain : ∀ item ∈ Visit.inserted visit.toList, isMarker (face item) = false)
    (attended : Attended face isMarker w) : Attended face isMarker next where
  toOrderly := attended.toOrderly.of_move calm move
  plain := by
    obtain ⟨_, same⟩ | ⟨index, call, reply, signal, rfl, effect⟩ := move.effect
    · exact same ▸ attended.plain
    · exact effect.plain steady attended.plain plain
  covered := by
    intro opened somebody
    cases visit with
    | some visit => exact covered_of_visit calm steady move attended opened somebody
    | none =>
      obtain ⟨_, same⟩ | ⟨_, _, _, _, absent, _⟩ := move.effect
      · rw [same] at opened ⊢
        have covered := attended.covered opened
        obtain counts | counts | counts := move.tally
        · rw [counts .parked (by simp)] at somebody
          rw [counts (.owing .one) (by simp), counts .woken (by simp)]
          exact covered somebody
        · omega
        · have := covered (by omega)
          omega
      · cases absent

/-- Every run that inserts no marker keeps a world attended. -/
theorem Attended.of_replay? (calm : Calm α) (steady : Steady face isMarker) {w last : World σ α}
    {events : List Event} (replayed : w.replay? events = some last)
    (plain : ∀ item ∈ Visit.inserted (w.visits events), isMarker (face item) = false)
    (attended : Attended face isMarker w) : Attended face isMarker last := by
  refine run_induction (fun w visits last =>
    (∀ item ∈ Visit.inserted visits, isMarker (face item) = false) →
    Attended face isMarker w → Attended face isMarker last) ?_ ?_ replayed plain attended
  · exact fun _ _ attended => attended
  · intro w next last visit visits move ih plain attended
    rw [Visit.inserted_append, List.forall_mem_append] at plain
    exact ih plain.2 (attended.of_move calm steady move plain.1)

/-- The last event that has changed whether the queue is open is a call of the thread at a place. -/
def ShutBy (first : World σ α) (events : List Event) (last : World σ α) (index : Nat) : Prop :=
  ∃ earlier event later before after call reply, events = earlier ++ event :: later ∧
    first.replay? earlier = some before ∧ before.next? event = some after ∧
    after.replay? later = some last ∧ before.visit? event = some ⟨index, call, reply⟩ ∧
    (call = .close ∨ call = .destroy) ∧
    before.queue.lifecycle ≠ last.queue.lifecycle ∧ after.queue.lifecycle = last.queue.lifecycle

/-- If the lifecycle has changed, then somebody has changed it. -/
theorem shutBy_of_replay? {first last : World σ α} {events : List Event}
    (replayed : first.replay? events = some last)
    (changed : first.queue.lifecycle ≠ last.queue.lifecycle) :
    ∃ index, ShutBy first events last index := by
  induction events generalizing first with
  | nil =>
    cases replayed
    exact (changed rfl).elim
  | cons event rest ih =>
    obtain ⟨next, happens, later⟩ := Option.bind_eq_some_iff.mp replayed
    by_cases same : next.queue.lifecycle = last.queue.lifecycle
    · have move := move_of_next? happens
      obtain ⟨_, still⟩ | ⟨index, call, reply, signal, visited, effect⟩ := move.effect
      · exact (changed (still ▸ same)).elim
      · obtain still | ⟨_, _, _, shuts⟩ := effect.lifecycle_eq
        · exact (changed (still ▸ same)).elim
        · exact ⟨index, [], event, rest, first, next, call, reply, rfl, rfl, happens, later,
            visited, shuts, changed, same⟩
    · obtain ⟨index, earlier, moment, after, before, next', call, reply, rfl, replayed', rest'⟩ :=
        ih later same
      exact ⟨index, event :: earlier, moment, after, before, next', call, reply, rfl,
        Option.bind_eq_some_iff.mpr ⟨next, happens, replayed'⟩, rest'⟩

/-- The thread at a place owes the notification of everybody, or nobody is parked. -/
def Owed (index : Nat) (w : World σ α) : Prop :=
  (∃ thread, w.threads[index]? = some thread ∧ thread.standing = .owing .all) ∨ w.parked = []

/-- Once the queue is shut, whoever owes the notification of everybody keeps owing it as long as
somebody is parked. -/
private theorem Owed.of_move {index : Nat} {w next : World σ α} {visit : Option (Visit α)}
    (move : Move w next visit) (shut : w.queue.lifecycle ≠ .opened) (owed : Owed index w) :
    Owed index next := by
  have gone (nobody : next.tally .parked = 0) : Owed index next :=
    .inr (List.length_eq_zero_iff.mp ((length_parked next).trans nobody))
  obtain ⟨debtor, there, owes⟩ | nobody := owed
  · cases move with
    | @visits _ thread _ _ here awake _ _ _ _ threads =>
      have apart : thread.standing ≠ debtor.standing := by
        obtain standing | standing := awake <;> simp [standing, owes]
      exact .inl ⟨debtor, threads ▸ getElem?_set_apart here there apart _, owes⟩
    | unheard here standing _ _ _ threads =>
      exact .inl
        ⟨debtor, threads ▸ getElem?_set_apart here there (by simp [standing, owes]) _, owes⟩
    | @heardByOne _ _ thread _ here standing there' asleep _ _ threads =>
      -- Neither the thread that has notified nor the one that is woken is the debtor.
      let freed : Thread α := { thread with standing := .ready }
      have still := getElem?_set_apart here there (by simp [standing, owes]) freed
      have sleeps := getElem?_set_apart here there' (by simp [standing, asleep]) freed
      have apart := getElem?_set_apart sleeps still (by simp [asleep, owes])
      exact .inl ⟨debtor, threads ▸ apart _, owes⟩
    | heardByAll here _ _ _ threads =>
      refine gone (tally_eq_zero.mpr ?_)
      rw [threads]
      intro thread listed
      obtain ⟨before, _, rfl⟩ := List.mem_map.mp listed
      unfold Thread.rouse
      split
      · simp
      · assumption
    | draws here standing _ _ _ _ threads =>
      exact .inl
        ⟨debtor, threads ▸ getElem?_set_apart here there (by simp [standing, owes]) _, owes⟩
    | delivers here standing _ _ _ _ threads =>
      exact .inl
        ⟨debtor, threads ▸ getElem?_set_apart here there (by simp [standing, owes]) _, owes⟩
    | wakes here standing _ _ threads =>
      exact .inl
        ⟨debtor, threads ▸ getElem?_set_apart here there (by simp [standing, owes]) _, owes⟩
    | idles same => exact .inl ⟨debtor, same ▸ there, owes⟩
  · have noneParked : w.tally .parked = 0 := by rw [← length_parked, nobody]; rfl
    have fewer := move.tally_parked_le fun opened => (shut opened).elim
    exact gone (by omega)

theorem lifecycle_of_move {w next : World σ α} {visit : Option (Visit α)}
    (move : Move w next visit) (shut : w.queue.lifecycle ≠ .opened) :
    next.queue.lifecycle ≠ .opened := by
  obtain ⟨_, same⟩ | ⟨_, _, _, _, _, effect⟩ := move.effect
  · exact same ▸ shut
  · obtain same | ⟨_, _, gone, _⟩ := effect.lifecycle_eq
    · exact same ▸ shut
    · exact gone

/-- The thread that has shut the queue owes its notification as long as somebody is parked. -/
theorem owed_of_shutBy {first last : World σ α} {events : List Event} {index : Nat}
    (shut : last.queue.lifecycle ≠ .opened) (shutBy : ShutBy first events last index) :
    Owed index last := by
  obtain ⟨earlier, event, later, before, after, call, reply, -, -, happens, replayed, visited, -,
    changed, same⟩ := shutBy
  have move := move_of_next? happens
  have debtor : Owed index after := by
    rw [visited] at move
    cases move with
    | @visits _ thread _ outcome here _ _ takes queue _ threads =>
      obtain still | ⟨signal, answered, _⟩ := takes.lifecycle_eq
      · rw [← queue, same] at still
        exact (changed still.symm).elim
      · obtain ⟨reply, answer⟩ := Option.ne_none_iff_exists'.mp answered
        have bound := (List.getElem?_eq_some_iff.mp here).1
        refine .inl ⟨_, threads ▸ List.getElem?_set_self bound, ?_⟩
        rw [standing_after, answer, signal]
  refine (run_induction (fun w _ last => w.queue.lifecycle ≠ .opened → Owed index w →
    Owed index last) ?_ ?_ replayed) (same ▸ shut) debtor
  · exact fun _ _ owed => owed
  · exact fun move ih shut owed => ih (lifecycle_of_move move shut) (owed.of_move move shut)

/-- Around a new queue into which no marker is inserted, whatever happens: while the queue is open,
the notifications of one that are owed and the threads that are woken are no fewer than the queued
items or than the parked threads; and when it is not, then somebody has shut it who owes the
notification of all as long as a thread is parked. -/
theorem wakeups_suffice (calm : Calm α) (steady : Steady face isMarker) {first w : World σ α}
    {events : List Event} (fresh : Fresh first) (replayed : first.replay? events = some w)
    (plain : ∀ item ∈ Visit.inserted (first.visits events), isMarker (face item) = false) :
    (w.queue.lifecycle = .opened →
      min w.queue.list.length w.parked.length ≤ w.tally (.owing .one) + w.tally .woken) ∧
    (w.queue.lifecycle ≠ .opened → ∃ index, ShutBy first events w index ∧
      (w.parked ≠ [] →
        ∃ thread, w.threads[index]? = some thread ∧ thread.standing = .owing .all)) := by
  have start : Attended face isMarker first :=
    { fresh.orderly with
      plain := by simp [fresh.queue]
      covered := by simp [fresh.queue] }
  have attended := start.of_replay? calm steady replayed plain
  refine ⟨fun opened => ?_, fun shut => ?_⟩
  · rw [length_parked]
    obtain nobody | somebody := Nat.eq_zero_or_pos (w.tally .parked)
    · omega
    · have := attended.covered opened somebody
      omega
  · have changed : first.queue.lifecycle ≠ w.queue.lifecycle := by
      rw [fresh.queue]
      exact shut.symm
    obtain ⟨index, shutBy⟩ := shutBy_of_replay? replayed changed
    refine ⟨index, shutBy, fun somebody => ?_⟩
    exact (owed_of_shutBy shut shutBy).resolve_right somebody

/-- A thread that inserts a reading, two that remove one, and one that closes the queue. -/
private def gathering : World LineSink Reading where
  queue := .empty
  sink := ⟨{ device := {} }, false⟩
  threads :=
    [{ name := "inserter", task := .caller [.insert ⟨7, ⟨0⟩, 0⟩] [] },
      { name := "first remover", task := .caller [.remove] [] },
      { name := "second remover", task := .caller [.remove] [] },
      { name := "closer", task := .caller [.close] [] }]

/-- Both removers park, the inserter wakes one of them, and the queue is closed. -/
private def gathered : List Event := [.step 1 0, .step 2 0, .step 0 0, .step 0 0, .step 3 0]

private def gatheringEnd : World LineSink Reading :=
  (gathering.replay? gathered).get (by decide)

/-- The second remover is still parked, but the one who has closed the queue will notify it. -/
theorem wakeups_suffice_gathering :
    gatheringEnd.queue.lifecycle = .closed ∧ gatheringEnd.parked = [2] ∧
      ∃ index, ShutBy gathering gathered gatheringEnd index ∧
        ∃ thread, gatheringEnd.threads[index]? = some thread ∧ thread.standing = .owing .all := by
  have replayed : gathering.replay? gathered = some gatheringEnd := (Option.some_get _).symm
  have fresh : Fresh gathering := ⟨rfl, by decide⟩
  have plain : ∀ item ∈ Visit.inserted (gathering.visits gathered),
      Reading.isEndOfStream (id item) = false := by decide
  have closed : gatheringEnd.queue.lifecycle = .closed := by decide
  have asleep : gatheringEnd.parked = [2] := by decide
  obtain ⟨_, atShut⟩ := wakeups_suffice calm_reading steady_reading fresh replayed plain
  obtain ⟨index, shutBy, owes⟩ := atShut (by simp [closed])
  exact ⟨closed, asleep, index, shutBy, owes (by simp [asleep])⟩

end World

end SensorRelay
