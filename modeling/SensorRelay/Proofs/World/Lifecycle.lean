import SensorRelay.Proofs.Queue.Item
import SensorRelay.Proofs.World.Standing
import SensorRelay.Reading.Writer

/-! # The life of a queue

A queue is open, then closed, then destroyed, and may skip the second stage; there is no way back.
No item gets into it after the first stage, so from then on its items only dwindle: they are taken
from the head, where marker checks look at them. `Onward` is all that one call may change, and calls
add up to a run. A call that is refused changes nothing at all.
-/

namespace SensorRelay

variable {σ α β : Type}

/-- The stages of a queue's life, in order. -/
def Lifecycle.stage : Lifecycle → Nat
  | .opened => 0
  | .closed => 1
  | .destroyed => 2

theorem Lifecycle.stage_le (lifecycle : Lifecycle) : lifecycle.stage ≤ 2 := by
  cases lifecycle <;> decide

theorem Lifecycle.stage_eq_zero {lifecycle : Lifecycle} : lifecycle.stage = 0 ↔
    lifecycle = .opened := by
  cases lifecycle <;> decide

theorem Lifecycle.stage_eq_two {lifecycle : Lifecycle} : lifecycle.stage = 2 ↔
    lifecycle = .destroyed := by
  cases lifecycle <;> decide

/-- Has a critical section destroyed the queue? -/
def Visit.destroys (visit : Visit α) : Bool :=
  match visit.call, visit.reply with
  | .destroy, some (.count _) => true
  | _, _ => false

variable [QueueItem α]

namespace SharedQueue

/-- Items get fewer at the head, where they are taken out or looked at. -/
inductive Dwindles : List α → List α → Prop
  | same (items : List α) : Dwindles items items
  | taken {head : α} {rest after : List α} (later : Dwindles rest after) :
      Dwindles (head :: rest) after
  | checked {head seen : α} {verdict : Bool} {rest after : List α}
      (checked : QueueItem.inspect head = .seen verdict seen)
      (later : Dwindles (seen :: rest) after) : Dwindles (head :: rest) after

theorem Dwindles.trans {before middle after : List α} (first : Dwindles before middle)
    (second : Dwindles middle after) : Dwindles before after := by
  induction first with
  | same => exact second
  | taken _ ih => exact .taken (ih second)
  | checked verdict _ ih => exact .checked verdict (ih second)

/-- Marker checks apart, what is left is the end of what there was. -/
theorem Dwindles.isSuffix {face : α → β} {isMarker : β → Bool} (steady : Steady face isMarker)
    {before after : List α} (dwindles : Dwindles before after) :
    after.map face <:+ before.map face := by
  induction dwindles with
  | same => exact List.suffix_refl _
  | taken _ ih => exact ih.trans (List.suffix_cons _ _)
  | checked verdict _ ih =>
    rw [List.map_cons, steady.keeps verdict] at ih
    exact ih

/-- How a queue may go on. -/
structure Onward (q next : SharedQueue α) : Prop where
  stage : q.lifecycle.stage ≤ next.lifecycle.stage
  dwindles : q.lifecycle ≠ .opened → next.lifecycle ≠ .destroyed → Dwindles q.list next.list
  emptied : (q.lifecycle = .destroyed → q.list = []) →
    next.lifecycle = .destroyed → next.list = []

namespace Onward

variable {first middle last q next : SharedQueue α}

theorem refl (q : SharedQueue α) : Onward q q where
  stage := Nat.le_refl _
  dwindles _ _ := .same _
  emptied empty := empty

theorem staysDestroyed (onward : Onward q next) (gone : q.lifecycle = .destroyed) :
    next.lifecycle = .destroyed := by
  have before := Lifecycle.stage_eq_two.mpr gone
  have after := next.lifecycle.stage_le
  have order := onward.stage
  exact Lifecycle.stage_eq_two.mp (by omega)

theorem wasOpened (onward : Onward q next) (opened : next.lifecycle = .opened) :
    q.lifecycle = .opened := by
  have after := Lifecycle.stage_eq_zero.mpr opened
  have order := onward.stage
  exact Lifecycle.stage_eq_zero.mp (by omega)

theorem trans (left : Onward first middle) (right : Onward middle last) : Onward first last where
  stage := Nat.le_trans left.stage right.stage
  dwindles shut alive :=
    (left.dwindles shut (mt right.staysDestroyed alive)).trans
      (right.dwindles (mt left.wasOpened shut) alive)
  emptied empty := right.emptied (left.emptied empty)

/-- A queue of the same lifecycle has gone on if its items dwindle. -/
theorem of_dwindles (lifecycle : next.lifecycle = q.lifecycle)
    (dwindles : Dwindles q.list next.list) (alive : q.lifecycle ≠ .destroyed) : Onward q next where
  stage := Nat.le_of_eq (congrArg _ lifecycle.symm)
  dwindles _ _ := dwindles
  emptied _ gone := (alive (lifecycle ▸ gone)).elim

end Onward

variable {q next : SharedQueue α} {call : Call α} {reply : Option (Reply α)}
  {signal : Option Signal}

/-- No call brings a queue back. -/
theorem Effect.onward (effect : Effect q next call reply signal) : Onward q next := by
  cases effect with
  | refused same => exact same ▸ .refl q
  | inserted _ _ opened _ stillOpened _ =>
    have same : next.lifecycle = q.lifecycle := stillOpened.trans opened.symm
    exact ⟨Nat.le_of_eq (congrArg _ same.symm), fun shut => (shut opened).elim,
      fun _ gone => by simp [stillOpened] at gone⟩
  | waits same => exact same ▸ .refl q
  | removed _ alive _ items _ lifecycle =>
    exact .of_dwindles lifecycle (items ▸ .taken (.same _)) alive
  | metMarker _ alive checked items itemsAfter _ lifecycle =>
    exact .of_dwindles lifecycle (items ▸ itemsAfter ▸ .checked checked (.same _)) alive
  | drained same => exact same ▸ .refl q
  | closed _ opened _ lifecycle _ =>
    exact ⟨by simp [opened, Lifecycle.stage], fun shut => (shut opened).elim,
      fun _ gone => by simp [lifecycle] at gone⟩
  | closedBefore same => exact same ▸ .refl q
  | destroyed _ _ _ lifecycle items =>
    refine ⟨?_, fun _ alive => (alive lifecycle).elim, fun _ _ => items⟩
    rw [Lifecycle.stage_eq_two.mpr lifecycle]
    exact q.lifecycle.stage_le
  | counted same => exact same ▸ .refl q
  | judged same => exact same ▸ .refl q
  | peeked _ checked items itemsAfter _ lifecycle =>
    exact ⟨Nat.le_of_eq (congrArg _ lifecycle.symm),
      fun _ _ => items ▸ itemsAfter ▸ .checked checked (.same _),
      fun empty gone => by simp [empty (lifecycle ▸ gone)] at items⟩
  | panicked _ _ _ _ poisons =>
    exact poisons ▸ ⟨Nat.le_refl _, fun _ _ => .same _, fun empty => empty⟩

/-- Who is refused leaves everything as it was. -/
theorem Effect.of_refused {fault : QueueFault}
    (effect : Effect q next call (some (.refused fault)) signal) : next = q := by
  cases effect with
  | refused same => exact same

/-- A destroyed queue refuses whatever would change it. -/
theorem Effect.of_gone (effect : Effect q next call reply signal) (sound : q.poisoned = false)
    (gone : q.lifecycle = .destroyed) (empty : q.list = [])
    (acts : call.item? ≠ none ∨ call ∈ [.remove, .close, .destroy]) :
    reply = some (.refused .destroyed) := by
  cases effect with
  | refused _ refusal =>
    cases refusal with
    | poisoned poisoned => simp [sound] at poisoned
    | destroyed => rfl
    | closed closed => simp [gone] at closed
    | allocation opened => simp [gone] at opened
  | inserted _ _ opened => simp [gone] at opened
  | waits _ _ opened => simp [gone] at opened
  | removed _ alive => exact (alive gone).elim
  | metMarker _ alive => exact (alive gone).elim
  | drained _ _ closed => simp [gone] at closed
  | closed _ opened => simp [gone] at opened
  | closedBefore _ _ closed => simp [gone] at closed
  | destroyed _ alive => exact (alive gone).elim
  | counted => simp [Call.item?] at acts
  | judged _ _ asks =>
    simp only [List.mem_cons, List.not_mem_nil, or_false] at asks
    obtain rfl | rfl | rfl | rfl := asks <;> simp [Call.item?] at acts
  | peeked _ _ items => simp [empty] at items
  | panicked _ _ _ items => simp [empty] at items

/-- Whoever destroys a queue finds it alive. -/
theorem Effect.of_destroys {index : Nat} (effect : Effect q next call reply signal)
    (destroys : Visit.destroys ⟨index, call, reply⟩ = true) :
    q.lifecycle ≠ .destroyed ∧ next.lifecycle = .destroyed := by
  unfold Visit.destroys at destroys
  split at destroys
  · next isDestroy counts =>
    dsimp only at isDestroy counts
    subst isDestroy counts
    cases effect with
    | destroyed _ alive _ lifecycle => exact ⟨alive, lifecycle⟩
  · cases destroys

end SharedQueue

namespace World

open SharedQueue (Onward)

variable [Sink σ α] {first w next last : World σ α} {event : Event} {seen : Visit α}

theorem Move.onward {visit : Option (Visit α)} (move : Move w next visit) :
    Onward w.queue next.queue := by
  obtain ⟨_, same⟩ | ⟨_, _, _, _, _, effect⟩ := move.effect
  · exact same ▸ .refl _
  · exact effect.onward

/-- No run brings a queue back. -/
theorem onward_of_reaches (reached : Reaches first last) : Onward first.queue last.queue :=
  invariant_of_reaches (fun w => Onward first.queue w.queue)
    (fun move before => before.trans move.onward) (.refl _) reached

/-- A queue is destroyed once at most, and not at all if it has been before. -/
theorem countP_destroys_le {events : List Event} (replayed : first.replay? events = some last) :
    (first.visits events).countP Visit.destroys ≤ 1 ∧
      (first.queue.lifecycle = .destroyed → (first.visits events).countP Visit.destroys = 0) := by
  refine run_induction (fun w visits _ => visits.countP Visit.destroys ≤ 1 ∧
    (w.queue.lifecycle = .destroyed → visits.countP Visit.destroys = 0)) ?_ ?_ replayed
  · exact fun _ => ⟨Nat.zero_le _, fun _ => rfl⟩
  · intro w next last visit visits move ⟨once, never⟩
    have stays := move.onward.staysDestroyed
    rw [List.countP_append]
    obtain ⟨rfl, _⟩ | ⟨index, call, reply, signal, rfl, effect⟩ := move.effect
    · exact ⟨by simpa using once, fun gone => by simpa using never (stays gone)⟩
    · by_cases destroys : Visit.destroys ⟨index, call, reply⟩ = true
      · obtain ⟨alive, gone⟩ := effect.of_destroys destroys
        refine ⟨?_, fun before => (alive before).elim⟩
        simp [destroys, never gone]
      · refine ⟨by simpa [destroys] using once, fun gone => ?_⟩
        simpa [destroys] using never (stays gone)

/-- What a thread does to a queue in a critical section, and what it is answered. -/
structure Lawful (w next : World σ α) (seen : Visit α) : Prop where
  /-- Who is refused leaves the items, the lifecycle and the lock as they were. -/
  refused : ∀ fault, seen.reply = some (.refused fault) → next.queue = w.queue
  /-- A destroyed queue refuses whatever would change it. -/
  gone : w.queue.lifecycle = .destroyed → w.queue.poisoned = false →
    seen.call.item? ≠ none ∨ seen.call ∈ [.remove, .close, .destroy] →
    seen.reply = some (.refused .destroyed)
  /-- It is told to be empty. -/
  length : w.queue.lifecycle = .destroyed → w.queue.poisoned = false →
    seen.call = .length → seen.reply = some (.count 0)
  /-- A queue that is not destroyed can be closed. -/
  closes : w.queue.lifecycle ≠ .destroyed → w.queue.poisoned = false → seen.call = .close →
    seen.reply = some .done ∧ next.queue.lifecycle = .closed ∧
      next.queue.list = w.queue.list ∧ next.queue.poisoned = false
  /-- It can be closed again, which changes nothing and notifies nobody. -/
  closesAgain : w.queue.lifecycle = .closed → w.queue.poisoned = false → seen.call = .close →
    next.queue = w.queue ∧ ∀ signal, next.tally (.owing signal) = w.tally (.owing signal)

/-- Threads do to a queue what is lawful, if it is empty once it is destroyed. -/
theorem lawful_of_next? (happens : w.next? event = some next)
    (visited : w.visit? event = some seen)
    (empty : w.queue.lifecycle = .destroyed → w.queue.list = []) : Lawful w next seen := by
  have move := move_of_next? happens
  rw [visited] at move
  cases move with
  | @visits index thread call outcome here awake calls takes queue _ threads =>
    refine ⟨fun fault refused => ?_, fun gone sound => takes.of_gone sound gone (empty gone),
      fun gone sound measures => ?_, fun alive sound closes => ?_, fun shut sound closes => ?_⟩
    · have effect : SharedQueue.Effect w.queue outcome.queue call outcome.reply outcome.signal :=
        takes
      rw [show outcome.reply = _ from refused] at effect
      exact queue.trans effect.of_refused
    · obtain ⟨performed, _, reply, ⟨place, rfl⟩ | ⟨adds, _⟩⟩ := outcome_of_visit? happens visited
      · rw [reply, measures]
        exact (SharedQueue.reply_length sound).trans (by rw [empty gone]; rfl)
      · rw [measures] at adds
        exact (adds rfl).elim
    · cases closes
      obtain ⟨reply, lifecycle, items, stillSound, _⟩ := takes.of_close sound alive
      exact ⟨reply, queue ▸ lifecycle, queue ▸ items, queue ▸ stillSound⟩
    · cases closes
      obtain ⟨reply, _, _, _, again⟩ := takes.of_close sound (by simp [shut])
      obtain ⟨same, silent⟩ := again shut
      refine ⟨queue.trans same, fun signal => ?_⟩
      have counts := tally_visits here threads (.owing signal)
      rw [standing_after, reply, silent] at counts
      obtain standing | standing := awake <;> simpa [standing] using counts

/-- Around a new queue, whatever the threads do: the queue is open, then closed, then destroyed, and
never goes back. Once it is not open its items dwindle at the head only, until it is destroyed,
which happens once at most, and from then on it is empty. Whoever is refused changes nothing. As
long as the lock is sound, a destroyed queue refuses whatever would change it, and one that is not
destroyed can be closed again and again, which changes nothing after the first time. -/
theorem life_of_queue {events : List Event} (new : first.queue = .empty)
    (replayed : first.replay? events = some w) :
    (first.visits events).countP Visit.destroys ≤ 1 ∧
    (∀ last, Reaches w last → w.queue.lifecycle.stage ≤ last.queue.lifecycle.stage ∧
      (w.queue.lifecycle ≠ .opened → last.queue.lifecycle ≠ .destroyed →
        SharedQueue.Dwindles w.queue.list last.queue.list) ∧
      (last.queue.lifecycle = .destroyed → last.queue.list = [])) ∧
    ∀ event next seen, w.next? event = some next → w.visit? event = some seen →
      Lawful w next seen := by
  have empty (last : World σ α) (reached : Reaches w last) :
      last.queue.lifecycle = .destroyed → last.queue.list = [] := by
    refine (onward_of_reaches ((reaches_of_replay? replayed).trans reached)).emptied fun gone => ?_
    simp [new] at gone
  refine ⟨(countP_destroys_le replayed).1, fun last reached => ?_, fun event next seen => ?_⟩
  · have onward := onward_of_reaches reached
    exact ⟨onward.stage, onward.dwindles, empty last reached⟩
  · exact fun happens visited => lawful_of_next? happens visited (empty w (.refl w))

/-- A thread that removes, and one that inserts two readings, closes the queue twice and destroys
it. -/
private def lived : World LineSink Reading where
  queue := .empty
  sink := ⟨{ device := {} }, false⟩
  threads :=
    [{ name := "remover", task := .caller [.remove] [] },
      { name := "owner"
        task := .caller
          [.insert ⟨7, ⟨0⟩, 0⟩, .insert ⟨8, ⟨0⟩, 0⟩, .close, .close, .destroy] [] }]

/-- The remover parks and is woken, and the queue is closed for the first time. -/
private def closing : List Event := .step 0 0 :: List.replicate 6 (.step 1 0)

private def shutDown : World LineSink Reading := (lived.replay? closing).get (by decide)

private def razed : World LineSink Reading :=
  (lived.replay? (closing ++ [.step 1 0, .step 1 0])).get (by decide)

/-- Closing again changes nothing, and of two readings an end is left. The remover that has parked
at an open queue is refused when the queue is destroyed. -/
theorem life_of_queue_razed :
    (∃ next, shutDown.next? (.step 1 0) = some next ∧
      shutDown.visit? (.step 1 0) = some ⟨1, .close, some .done⟩ ∧
      next.queue = shutDown.queue) ∧
    (∀ last, Reaches shutDown last → last.queue.lifecycle ≠ .destroyed →
      last.queue.list <:+ [⟨7, ⟨0⟩, 0⟩, ⟨8, ⟨0⟩, 0⟩]) ∧
    razed.queue.list = [] ∧
    razed.visit? (.step 0 0) = some ⟨0, .remove, some (.refused .destroyed)⟩ := by
  have closed : lived.replay? closing = some shutDown := (Option.some_get _).symm
  have destroyed : lived.replay? (closing ++ [.step 1 0, .step 1 0]) = some razed :=
    (Option.some_get _).symm
  obtain ⟨_, onward, lawful⟩ := life_of_queue rfl closed
  obtain ⟨_, atEnd, lawfulAtEnd⟩ := life_of_queue rfl destroyed
  have items : shutDown.queue.list = [⟨7, ⟨0⟩, 0⟩, ⟨8, ⟨0⟩, 0⟩] := by decide
  have gone : razed.queue.lifecycle = .destroyed := by decide
  refine ⟨?_, fun last reached alive => ?_, (atEnd razed (.refl _)).2.2 gone, ?_⟩
  · obtain ⟨next, happens⟩ := Option.isSome_iff_exists.mp
      (show (shutDown.next? (.step 1 0)).isSome by decide)
    have visited : shutDown.visit? (.step 1 0) = some ⟨1, .close, some .done⟩ := by decide
    have again := (lawful _ next _ happens visited).closesAgain (by decide) (by decide) rfl
    exact ⟨next, happens, visited, again.1⟩
  · have dwindles := (onward last reached).2.1 (by decide) alive
    have left := dwindles.isSuffix steady_reading
    rwa [List.map_id, List.map_id, items] at left
  · obtain ⟨next, happens⟩ := Option.isSome_iff_exists.mp
      (show (razed.next? (.step 0 0)).isSome by decide)
    have visited : ∃ reply, razed.visit? (.step 0 0) = some ⟨0, .remove, reply⟩ := ⟨_, rfl⟩
    obtain ⟨reply, visited⟩ := visited
    have refused := (lawfulAtEnd _ next _ happens visited).gone gone (by decide) (by simp)
    rw [visited, show reply = _ from refused]

end World

end SensorRelay
