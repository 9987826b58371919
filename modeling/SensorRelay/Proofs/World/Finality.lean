import SensorRelay.Proofs.Queue.Item
import SensorRelay.Proofs.World.Move
import SensorRelay.Reading.Writer

/-! # The end of a stream is final

A remover is told of the end of a stream for one of two reasons: a marker is at the head, or the
queue is closed and empty. Behind a marker more items may be inserted, but nothing is inserted into
a closed queue, so neither reason goes away before the queue is destroyed (`Over`). Every effect
keeps the end (`Effect.keepsOver`), so every run keeps it, and all later removals meet it.
-/

namespace SensorRelay

variable {σ α β : Type} [QueueItem α] {face : α → β} {isMarker : β → Bool}

namespace SharedQueue

/-- A removal finds nothing in a queue, and does not wait for anything. -/
inductive Over (face : α → β) (isMarker : β → Bool) (q : SharedQueue α) : Prop
  | destroyed (gone : q.lifecycle = .destroyed)
  | drained (closed : q.lifecycle = .closed) (items : q.list = [])
  | marked {head : α} {rest : List α} (items : q.list = head :: rest)
      (isOne : isMarker (face head) = true)

variable {q next : SharedQueue α} {call : Call α} {reply : Option (Reply α)}
  {signal : Option Signal}

/-- A marker check at the head of a queue leaves it over. -/
private theorem Over.of_check (steady : Steady face isMarker) {head item : α} {rest : List α}
    {verdict : Bool} (isOver : q.Over face isMarker)
    (checked : QueueItem.inspect head = .seen verdict item) (items : q.list = head :: rest)
    (itemsAfter : next.list = item :: rest) (lifecycle : next.lifecycle = q.lifecycle) :
    next.Over face isMarker := by
  cases isOver with
  | destroyed gone => exact .destroyed (lifecycle.trans gone)
  | drained _ nothing => simp [items] at nothing
  | marked before isOne =>
    rw [items, List.cons.injEq] at before
    obtain ⟨rfl, rfl⟩ := before
    exact .marked itemsAfter ((congrArg isMarker (steady.keeps checked)).trans isOne)

/-- No call brings a stream back that is over. -/
theorem Effect.keepsOver (calm : Calm α) (steady : Steady face isMarker)
    (effect : Effect q next call reply signal) (isOver : q.Over face isMarker) :
    next.Over face isMarker := by
  cases effect with
  | refused same => exact same ▸ isOver
  | inserted _ _ opened _ _ itemsAfter =>
    cases isOver with
    | destroyed gone => simp [opened] at gone
    | drained closed => simp [opened] at closed
    | marked items isOne => exact .marked (itemsAfter.trans (by rw [items]; rfl)) isOne
  | waits same => exact same ▸ isOver
  | removed _ alive checked items =>
    cases isOver with
    | destroyed gone => exact (alive gone).elim
    | drained _ nothing => simp [items] at nothing
    | marked before isOne =>
      rw [items, List.cons.injEq] at before
      obtain ⟨rfl, _⟩ := before
      rw [← steady.tells checked] at isOne
      cases isOne
  | metMarker _ _ checked items itemsAfter _ lifecycle =>
    exact isOver.of_check steady checked items itemsAfter lifecycle
  | drained same => exact same ▸ isOver
  | closed _ opened _ _ itemsAfter =>
    cases isOver with
    | destroyed gone => simp [opened] at gone
    | drained closed => simp [opened] at closed
    | marked items isOne => exact .marked (itemsAfter.trans items) isOne
  | closedBefore same => exact same ▸ isOver
  | destroyed _ _ _ gone => exact .destroyed gone
  | counted same => exact same ▸ isOver
  | judged same => exact same ▸ isOver
  | peeked _ checked items itemsAfter _ lifecycle =>
    exact isOver.of_check steady checked items itemsAfter lifecycle
  | panicked _ _ checked => exact (calm _ checked).elim

/-- A removal from a queue that is over answers so, and leaves the items and the lifecycle alone;
one from a destroyed queue is refused. -/
theorem Effect.of_over (calm : Calm α) (steady : Steady face isMarker)
    (effect : Effect q next .remove reply signal) (sound : q.poisoned = false)
    (isOver : q.Over face isMarker) :
    (q.lifecycle ≠ .destroyed → reply = some .endOfStream ∧
      next.list.map face = q.list.map face ∧ next.lifecycle = q.lifecycle) ∧
    (q.lifecycle = .destroyed → reply = some (.refused .destroyed)) := by
  cases effect with
  | refused _ refusal =>
    refine ⟨fun alive => ?_, fun gone => ?_⟩
    · obtain poisoned | gone := refusal.gone rfl
      · simp [sound] at poisoned
      · exact (alive gone).elim
    · cases refusal with
      | poisoned poisoned => simp [sound] at poisoned
      | destroyed => rfl
      | closed closed => simp [gone] at closed
      | allocation opened => simp [gone] at opened
  | inserted adds => cases adds
  | waits _ _ opened nothing =>
    cases isOver with
    | destroyed gone => simp [opened] at gone
    | drained closed => simp [opened] at closed
    | marked items => simp [nothing] at items
  | removed _ alive checked items =>
    cases isOver with
    | destroyed gone => exact (alive gone).elim
    | drained _ nothing => simp [items] at nothing
    | marked before isOne =>
      rw [items, List.cons.injEq] at before
      obtain ⟨rfl, _⟩ := before
      rw [← steady.tells checked] at isOne
      cases isOne
  | metMarker _ alive checked items itemsAfter _ lifecycle =>
    refine ⟨fun _ => ⟨rfl, ?_, lifecycle⟩, fun gone => (alive gone).elim⟩
    simp [items, itemsAfter, steady.keeps checked]
  | drained same _ closed =>
    refine ⟨fun _ => ⟨rfl, by rw [same], by rw [same]⟩, fun gone => ?_⟩
    simp [closed] at gone
  | judged _ _ asks => simp at asks
  | panicked _ _ checked => exact (calm _ checked).elim

/-- A call that finds the end of the stream: a removal that is told of it, or a look at the head
that sees a marker. -/
inductive Finds : Call α → Option (Reply α) → Prop
  | removal : Finds .remove (some .endOfStream)
  | look : Finds .peekMarker (some (.flag true))

/-- A removal that is told of the end leaves a queue that is over. -/
private theorem Effect.over_of_endOfStream (steady : Steady face isMarker)
    (effect : Effect q next .remove (some .endOfStream) signal) :
    next.poisoned = false ∧ next.Over face isMarker := by
  cases effect with
  | metMarker _ _ checked _ itemsAfter stillSound =>
    refine ⟨stillSound, .marked itemsAfter ?_⟩
    rw [steady.keeps checked]
    exact (steady.tells checked).symm
  | drained same sound closed items =>
    rw [same]
    exact ⟨sound, .drained closed items⟩

/-- Whoever finds the end of the stream leaves a queue that is over. -/
theorem Finds.isOver (steady : Steady face isMarker) {place : Monitor.Fault}
    (found : Finds call (q.perform place call).reply) :
    (q.perform place call).queue.poisoned = false ∧
      (q.perform place call).queue.Over face isMarker := by
  have effect : Effect q (q.perform place call).queue call (q.perform place call).reply
      (q.perform place call).signal := q.effect_perform place call
  generalize answer : (q.perform place call).reply = reply at found effect
  cases found with
  | removal => exact effect.over_of_endOfStream steady
  | look =>
    obtain ⟨_, _, _, checked, _, itemsAfter, stillSound⟩ := of_peekMarker answer
    refine ⟨stillSound, .marked itemsAfter ?_⟩
    rw [steady.keeps checked]
    exact (steady.tells checked).symm

end SharedQueue

namespace World

variable [Sink σ α] {w next : World σ α}

/-- A world with a sound queue that is over. -/
structure Finished (face : α → β) (isMarker : β → Bool) (w : World σ α) : Prop where
  sound : w.queue.poisoned = false
  isOver : w.queue.Over face isMarker

theorem Finished.of_move (calm : Calm α) (steady : Steady face isMarker)
    {visit : Option (Visit α)} (move : Move w next visit)
    (finished : Finished face isMarker w) : Finished face isMarker next := by
  obtain ⟨_, same⟩ | ⟨_, _, _, _, _, effect⟩ := move.effect
  · exact ⟨same ▸ finished.sound, same ▸ finished.isOver⟩
  · exact ⟨effect.sound calm finished.sound, effect.keepsOver calm steady finished.isOver⟩

/-- The end of the stream, once a thread has found it, is there for all. -/
private theorem finished_of_finds (steady : Steady face isMarker) {event : Event}
    {seen : Visit α} (happens : w.next? event = some next)
    (visited : w.visit? event = some seen) (found : SharedQueue.Finds seen.call seen.reply) :
    Finished face isMarker next := by
  obtain ⟨outcome, queue, reply, ⟨place, rfl⟩ | ⟨adds, _⟩⟩ := outcome_of_visit? happens visited
  · rw [reply] at found
    obtain ⟨sound, isOver⟩ := found.isOver steady
    exact ⟨queue ▸ sound, queue ▸ isOver⟩
  · cases call : seen.call <;> simp_all [Call.item?] <;> cases found

/-- Once a thread has found the end of the stream, whatever all of them do after that: every removal
is told of the end at once and leaves the items and the lifecycle of the queue as they are, until
the queue is destroyed; from then on every removal is refused. -/
theorem end_is_final (calm : Calm α) (steady : Steady face isMarker) {event : Event}
    {seen : Visit α} (happens : w.next? event = some next)
    (visited : w.visit? event = some seen) (found : SharedQueue.Finds seen.call seen.reply)
    {before after : World σ α} {later : Event} {index : Nat} {reply : Option (Reply α)}
    (reached : Reaches next before) (goesOn : before.next? later = some after)
    (removes : before.visit? later = some ⟨index, .remove, reply⟩) :
    (before.queue.lifecycle ≠ .destroyed → reply = some .endOfStream ∧
      after.queue.list.map face = before.queue.list.map face ∧
      after.queue.lifecycle = before.queue.lifecycle) ∧
    (before.queue.lifecycle = .destroyed → reply = some (.refused .destroyed)) := by
  have finished := invariant_of_reaches (Finished face isMarker)
    (fun move finished => finished.of_move calm steady move)
    (finished_of_finds steady happens visited found) reached
  have move := move_of_next? goesOn
  rw [removes] at move
  obtain ⟨absent, _⟩ | ⟨_, _, _, _, visit, effect⟩ := move.effect
  · cases absent
  · cases visit
    exact effect.of_over calm steady finished.sound finished.isOver

/-- A thread that inserts a reading behind a marker, two that remove, and one that destroys the
queue. -/
private def finishing : World LineSink Reading where
  queue := .empty
  sink := ⟨{ device := {} }, false⟩
  threads :=
    [{ name := "inserter", task := .caller [.insertMarker, .insert ⟨7, ⟨0⟩, 0⟩] [] },
      { name := "first remover", task := .caller [.remove, .remove] [] },
      { name := "second remover", task := .caller [.remove] [] },
      { name := "destroyer", task := .caller [.destroy] [] }]

private def marked : World LineSink Reading :=
  (finishing.replay? [.step 0 0, .step 0 0]).get (by decide)

private def found : World LineSink Reading := (marked.next? (.step 1 0)).get (by decide)

private def followed : World LineSink Reading :=
  (found.replay? [.step 0 0, .step 0 0]).get (by decide)

private def ruined : World LineSink Reading :=
  (followed.replay? [.step 2 0, .step 3 0]).get (by decide)

/-- The first remover finds a marker, and then a reading is inserted behind it. The second one is
told of the end, and the first one is refused once the queue is destroyed. -/
theorem end_is_final_before_a_reading :
    followed.visit? (.step 2 0) = some ⟨2, .remove, some .endOfStream⟩ ∧
      ((followed.next? (.step 2 0)).map fun next => next.queue.list) =
        some [.endOfStream, ⟨7, ⟨0⟩, 0⟩] ∧
      ruined.visit? (.step 1 0) = some ⟨1, .remove, some (.refused .destroyed)⟩ := by
  have happens : marked.next? (.step 1 0) = some found := (Option.some_get _).symm
  have visited : marked.visit? (.step 1 0) = some ⟨1, .remove, some .endOfStream⟩ := by decide
  have onward : Reaches found followed := reaches_of_replay? (Option.some_get _).symm
  have further : Reaches followed ruined := reaches_of_replay? (Option.some_get _).symm
  have told : ∃ reply, followed.visit? (.step 2 0) = some ⟨2, .remove, reply⟩ := ⟨_, rfl⟩
  have turned : ∃ reply, ruined.visit? (.step 1 0) = some ⟨1, .remove, reply⟩ := ⟨_, rfl⟩
  obtain ⟨told, removes⟩ := told
  obtain ⟨turned, removesAgain⟩ := turned
  obtain ⟨next, goesOn⟩ := Option.isSome_iff_exists.mp
    (show (followed.next? (.step 2 0)).isSome by decide)
  obtain ⟨last, goesOnAgain⟩ := Option.isSome_iff_exists.mp
    (show (ruined.next? (.step 1 0)).isSome by decide)
  obtain ⟨answer, items, _⟩ := (end_is_final calm_reading steady_reading happens visited .removal
    onward goesOn removes).1 (by decide)
  have refusal := (end_is_final calm_reading steady_reading happens visited .removal
    (onward.trans further) goesOnAgain removesAgain).2 (by decide)
  refine ⟨removes.trans (by rw [answer]), ?_, removesAgain.trans (by rw [refusal])⟩
  rw [goesOn, Option.map_some, Option.some.injEq]
  simp only [List.map_id] at items
  exact items.trans (by decide)

end World

end SensorRelay
