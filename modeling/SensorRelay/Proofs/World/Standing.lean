import SensorRelay.Proofs.Queue.Item
import SensorRelay.Proofs.World.Move

/-! # How many threads are parked, woken, or owe a notification

`tally` counts the threads of a standing. A thread that runs through a critical section changes its
own standing only (`tally_visits`), and all other moves shift the counts in one of five ways
(`Move.tally`). The rest is what every run keeps up as long as no marker check panics: the lock is
sound, only removers park, and while somebody is parked at a queue that is not open, the
notification of everybody is still owed (`Orderly`).
-/

namespace SensorRelay.World

variable {σ α : Type}

/-- How many threads there are of a standing. -/
def tally (w : World σ α) (standing : Standing) : Nat :=
  w.threads.countP fun thread => thread.standing == standing

/-- Nothing has happened yet: the queue is new, and all threads are about to take a step. -/
structure Fresh (w : World σ α) : Prop where
  queue : w.queue = .empty
  ready : ∀ thread ∈ w.threads, thread.standing = .ready

theorem length_parked (w : World σ α) : w.parked.length = w.tally .parked := by
  have all := List.countP_map (p := fun thread : Thread α => thread.standing == .parked)
    (f := Prod.fst) (l := w.threads.zipIdx)
  rw [List.zipIdx_map_fst] at all
  rw [parked, List.length_map, ← List.countP_eq_length_filter, tally, all]
  rfl

theorem tally_eq_zero {w : World σ α} {standing : Standing} :
    w.tally standing = 0 ↔ ∀ thread ∈ w.threads, thread.standing ≠ standing := by
  simp [tally, List.countP_eq_zero]

theorem Fresh.tally {w : World σ α} (fresh : Fresh w) {standing : Standing}
    (other : standing ≠ .ready) : w.tally standing = 0 :=
  tally_eq_zero.mpr fun thread listed same => other (same.symm.trans (fresh.ready thread listed))

/-- Replacing one thread takes its old standing from the count and adds its new one. -/
theorem countP_set_add {threads : List (Thread α)} {index : Nat} {old : Thread α}
    (here : threads[index]? = some old) (new : Thread α) (standing : Standing) :
    (threads.set index new).countP (fun thread => thread.standing == standing) +
        (if old.standing = standing then 1 else 0) =
      threads.countP (fun thread => thread.standing == standing) +
        (if new.standing = standing then 1 else 0) := by
  obtain ⟨bound, rfl⟩ := List.getElem?_eq_some_iff.mp here
  have positive :=
    List.boole_getElem_le_countP (p := fun thread => thread.standing == standing) bound
  rw [List.countP_set bound]
  simp only [beq_iff_eq] at positive ⊢
  omega

/-- A thread of another standing stays when one is replaced. -/
theorem getElem?_set_apart {threads : List (Thread α)} {index place : Nat}
    {moved still : Thread α} (here : threads[index]? = some moved)
    (there : threads[place]? = some still) (apart : moved.standing ≠ still.standing)
    (new : Thread α) : (threads.set index new)[place]? = some still := by
  rw [List.getElem?_set_ne, there]
  rintro rfl
  rw [here, Option.some.injEq] at there
  exact apart (congrArg _ there)

theorem countP_rouse (threads : List (Thread α)) (standing : Standing) :
    (threads.map Thread.rouse).countP (fun thread => thread.standing == standing) =
      match standing with
      | .parked => 0
      | .woken => threads.countP (fun thread => thread.standing == .woken) +
          threads.countP (fun thread => thread.standing == .parked)
      | other => threads.countP (fun thread => thread.standing == other) := by
  induction threads with
  | nil => cases standing <;> rfl
  | cons thread rest ih =>
    simp only [List.map_cons, List.countP_cons, ih]
    cases asleep : thread.standing <;> cases standing <;>
      simp [Thread.rouse, asleep] <;> omega

/-- The standing of a thread after a critical section. -/
theorem standing_after (thread : Thread α) (outcome : Outcome α) :
    (thread.after outcome).1.standing =
      match outcome.reply, outcome.signal with
      | none, _ => .parked
      | some _, none => .ready
      | some _, some signal => .owing signal := by
  unfold Thread.after
  split <;> simp_all
  split <;> simp_all

theorem after_of_reply_none {outcome : Outcome α} (waits : outcome.reply = none)
    (thread : Thread α) : (thread.after outcome).1 = { thread with standing := .parked } := by
  simp only [Thread.after, waits]

/-- A critical section changes the standing of one thread. -/
theorem tally_visits {w next : World σ α} {index : Nat} {old new : Thread α}
    (here : w.threads[index]? = some old) (threads : next.threads = w.threads.set index new)
    (standing : Standing) :
    next.tally standing + (if old.standing = standing then 1 else 0) =
      w.tally standing + (if new.standing = standing then 1 else 0) := by
  rw [tally, tally, threads]
  exact countP_set_add here new standing

/-- Who gets an answer does not park, is not woken any more, and may owe a notification. -/
theorem tally_of_answered {w next : World σ α} {index : Nat} {thread : Thread α}
    {outcome : Outcome α} (here : w.threads[index]? = some thread)
    (awake : thread.standing = .ready ∨ thread.standing = .woken) (answered : outcome.reply ≠ none)
    (threads : next.threads = w.threads.set index (thread.after outcome).1) :
    next.tally .parked = w.tally .parked ∧
      next.tally .woken + (if thread.standing = .woken then 1 else 0) = w.tally .woken ∧
      next.tally (.owing .one) =
        w.tally (.owing .one) + if outcome.signal = some .one then 1 else 0 := by
  have shift := tally_visits here threads
  obtain ⟨reply, answer⟩ := Option.ne_none_iff_exists'.mp answered
  have parked := shift .parked
  have woken := shift .woken
  have one := shift (.owing .one)
  rw [standing_after, answer] at parked woken one
  obtain standing | standing := awake <;> cases signal : outcome.signal <;>
    simp_all

private theorem tally_heardByOne {w next : World σ α} {index other : Nat}
    {thread sleeper : Thread α} (here : w.threads[index]? = some thread)
    (owes : thread.standing = .owing .one) (there : w.threads[other]? = some sleeper)
    (asleep : sleeper.standing = .parked)
    (threads : next.threads = (w.threads.set index { thread with standing := .ready }).set other
      { sleeper with standing := .woken }) (standing : Standing) :
    next.tally standing + (if Standing.owing .one = standing then 1 else 0) +
        (if Standing.parked = standing then 1 else 0) =
      w.tally standing + (if Standing.ready = standing then 1 else 0) +
        (if Standing.woken = standing then 1 else 0) := by
  have still := getElem?_set_apart here there (by simp [owes, asleep])
    { thread with standing := .ready }
  have first := countP_set_add here { thread with standing := .ready } standing
  have second := countP_set_add still { sleeper with standing := .woken } standing
  rw [← threads, asleep] at second
  rw [owes] at first
  change _ = _ + (if Standing.ready = standing then 1 else 0) at first
  change _ = _ + (if Standing.woken = standing then 1 else 0) at second
  unfold tally
  omega

variable [QueueItem α] [Sink σ α]

/-- A move that is no critical section keeps the counts, or nobody is parked after it, or it wakes
one thread, for which it takes one notification at most from those that are owed. -/
theorem Move.tally {w next : World σ α} (move : Move w next none) :
    (∀ standing, standing ≠ .ready → next.tally standing = w.tally standing) ∨
      next.tally .parked = 0 ∨
      (next.tally .parked + 1 = w.tally .parked ∧ next.tally .woken = w.tally .woken + 1 ∧
        w.tally (.owing .one) ≤ next.tally (.owing .one) + 1 ∧
        next.tally (.owing .all) = w.tally (.owing .all)) := by
  cases move with
  | unheard here owes nobody _ _ threads =>
    have shift := tally_visits here threads .parked
    have noneParked : w.tally .parked = 0 := by rw [← length_parked, nobody]; rfl
    simp only [owes, reduceCtorEq, if_false] at shift
    omega
  | heardByOne here owes there asleep _ _ threads =>
    have shift := tally_heardByOne here owes there asleep threads
    have parked := shift .parked
    have woken := shift .woken
    have one := shift (.owing .one)
    have all := shift (.owing .all)
    simp at parked woken one all
    omega
  | @heardByAll index thread here owes _ _ threads =>
    right; left
    rw [World.tally, threads, countP_rouse]
  | draws here ready _ _ _ _ threads =>
    left
    intro standing _
    have shift := tally_visits here threads standing
    simpa using shift
  | delivers here ready _ _ _ _ threads =>
    left
    intro standing _
    have shift := tally_visits here threads standing
    simpa using shift
  | wakes here asleep _ _ threads =>
    have shift := tally_visits here threads
    have parked := shift .parked
    have woken := shift .woken
    have one := shift (.owing .one)
    have all := shift (.owing .all)
    simp only [asleep, reduceCtorEq, if_false, if_true] at parked woken one all
    omega
  | idles same => exact .inl fun _ _ => same ▸ rfl

/-- Nobody parks at a queue that has items or is not open. -/
theorem Move.tally_parked_le {w next : World σ α} {visit : Option (Visit α)}
    (move : Move w next visit) (busy : w.queue.lifecycle = .opened → w.queue.list ≠ []) :
    next.tally .parked ≤ w.tally .parked := by
  cases visit with
  | none =>
    obtain counts | counts | counts := move.tally
    · exact Nat.le_of_eq (counts .parked (by simp))
    · omega
    · omega
  | some visit =>
    cases move with
    | @visits _ _ _ outcome here awake _ takes _ _ threads =>
      have answered : outcome.reply ≠ none := by
        intro silent
        obtain ⟨_, _, opened, items⟩ := takes.of_reply_none silent
        exact busy opened items
      exact Nat.le_of_eq (tally_of_answered here awake answered threads).1

/-- What runs keep up while no marker check panics. -/
structure Orderly (w : World σ α) : Prop where
  sound : w.queue.poisoned = false
  /-- Only removers park. -/
  waiting : ∀ thread ∈ w.threads, thread.standing = .parked ∨ thread.standing = .woken →
    thread.task.call? = some .remove
  /-- Nobody sleeps on at a queue that is not open. -/
  owed : w.queue.lifecycle ≠ .opened → 0 < w.tally .parked → 0 < w.tally (.owing .all)

omit [QueueItem α] [Sink σ α] in
theorem Fresh.orderly {w : World σ α} (fresh : Fresh w) : Orderly w where
  sound := by rw [fresh.queue]; rfl
  waiting thread listed standing := by simp [fresh.ready thread listed] at standing
  owed shut := by simp [fresh.queue] at shut

/-- A thread that waits is about to make a removal. -/
private def Waits (thread : Thread α) : Prop :=
  thread.standing = .parked ∨ thread.standing = .woken → thread.task.call? = some .remove

omit [QueueItem α] [Sink σ α] in
private theorem waits_of_set {threads : List (Thread α)} {index : Nat} {new : Thread α}
    (waiting : ∀ thread ∈ threads, Waits thread) (own : Waits new) :
    ∀ thread ∈ threads.set index new, Waits thread := by
  intro thread listed
  obtain listed | rfl := List.mem_or_eq_of_mem_set listed
  · exact waiting thread listed
  · exact own

private theorem waiting_of_move {w next : World σ α} {visit : Option (Visit α)}
    (move : Move w next visit) (waiting : ∀ thread ∈ w.threads, Waits thread) :
    ∀ thread ∈ next.threads, Waits thread := by
  cases move with
  | @visits index thread call outcome here _ calls takes _ _ threads =>
    rw [threads]
    refine waits_of_set waiting fun standing => ?_
    cases answer : outcome.reply with
    | none =>
      rw [after_of_reply_none answer, ← (takes.of_reply_none answer).1]
      exact calls
    | some reply =>
      rw [standing_after, answer] at standing
      cases signal : outcome.signal <;> simp [signal] at standing
  | unheard _ _ _ _ _ threads =>
    rw [threads]
    exact waits_of_set waiting (by simp [Waits])
  | heardByOne _ _ there asleep _ _ threads =>
    have own := waiting _ (List.mem_of_getElem? there) (.inl asleep)
    rw [threads]
    exact waits_of_set (waits_of_set waiting (by simp [Waits])) fun _ => own
  | heardByAll here _ _ _ threads =>
    rw [threads]
    intro changed listed standing
    obtain ⟨before, present, rfl⟩ := List.mem_map.mp listed
    have own := waits_of_set waiting (by simp [Waits]) before present
    rw [Thread.task_rouse]
    by_cases asleep : before.standing = .parked
    · exact own (.inl asleep)
    · rw [Thread.rouse, if_neg asleep] at standing
      exact own standing
  | draws _ ready _ _ _ _ threads =>
    rw [threads]
    exact waits_of_set waiting (by simp [Waits, ready])
  | delivers _ ready _ _ _ _ threads =>
    rw [threads]
    exact waits_of_set waiting (by simp [Waits, ready])
  | wakes here asleep _ _ threads =>
    have own := waiting _ (List.mem_of_getElem? here) (.inl asleep)
    rw [threads]
    exact waits_of_set waiting fun _ => own
  | idles same => exact same ▸ waiting

private theorem owed_of_move {w next : World σ α} {visit : Option (Visit α)}
    (move : Move w next visit)
    (owed : w.queue.lifecycle ≠ .opened → 0 < w.tally .parked → 0 < w.tally (.owing .all))
    (shut : next.queue.lifecycle ≠ .opened) (somebody : 0 < next.tally .parked) :
    0 < next.tally (.owing .all) := by
  cases visit with
  | none =>
    obtain ⟨_, same⟩ | ⟨_, _, _, _, absent, _⟩ := move.effect
    · rw [same] at shut
      obtain counts | counts | counts := move.tally
      · rw [counts .parked (by simp)] at somebody
        rw [counts (.owing .all) (by simp)]
        exact owed shut somebody
      · omega
      · have := owed shut (by omega)
        omega
    · cases absent
  | some visit =>
    cases move with
    | @visits index thread call outcome here awake _ takes queue _ threads =>
      have parked := tally_visits here threads .parked
      have all := tally_visits here threads (.owing .all)
      have parkedOld : thread.standing ≠ .parked := by rintro same; simp [same] at awake
      have allOld : thread.standing ≠ .owing .all := by rintro same; simp [same] at awake
      rw [standing_after] at parked all
      simp only [parkedOld, allOld, if_false] at parked all
      rw [queue] at shut
      cases answer : outcome.reply with
      | none =>
        obtain ⟨_, same, opened, _⟩ := takes.of_reply_none answer
        exact (shut (same ▸ opened)).elim
      | some reply =>
        rw [answer] at parked all
        obtain same | ⟨signal, _⟩ := takes.lifecycle_eq
        · cases signal : outcome.signal <;> simp [signal] at parked all <;>
            have := owed (same ▸ shut) (by omega) <;> omega
        · simp [signal] at all
          omega

/-- Every move that keeps the lock sound keeps a world orderly. -/
theorem Orderly.of_sound {w next : World σ α} {visit : Option (Visit α)} (move : Move w next visit)
    (orderly : Orderly w) (sound : next.queue.poisoned = false) : Orderly next where
  sound := sound
  waiting := waiting_of_move move orderly.waiting
  owed := owed_of_move move orderly.owed

/-- Every move keeps a world orderly. -/
theorem Orderly.of_move (calm : Calm α) {w next : World σ α} {visit : Option (Visit α)}
    (move : Move w next visit) (orderly : Orderly w) : Orderly next := by
  refine orderly.of_sound move ?_
  obtain ⟨_, same⟩ | ⟨_, _, _, _, _, effect⟩ := move.effect
  · exact same ▸ orderly.sound
  · exact effect.sound calm orderly.sound

end SensorRelay.World
