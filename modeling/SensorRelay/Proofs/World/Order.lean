import SensorRelay.Proofs.Queue.Item
import SensorRelay.Proofs.World.Move
import SensorRelay.Scenario.Item

/-! # First in, first out

Until a queue is destroyed, what has been put into it is what has been taken out of it and then what
it holds, in the order of the critical sections. One effect keeps this balance (`balance`), so a run
keeps it (`balance_of_replay?`), and nothing that is taken out is a marker. When a queue is
destroyed it drops what has not been taken out, and nothing is taken out of it afterwards.
-/

namespace SensorRelay

variable {σ α β : Type} [QueueItem α] {face : α → β} {isMarker : β → Bool}

namespace SharedQueue

variable {q next : SharedQueue α} {call : Call α} {reply : Option (Reply α)}
  {signal : Option Signal}

/-- A destroyed queue stays as it is, and gives nothing. -/
theorem Effect.of_destroyed (effect : Effect q next call reply signal)
    (gone : q.lifecycle = .destroyed) (index : Nat) :
    next.lifecycle = .destroyed ∧ Visit.removed? ⟨index, call, reply⟩ = none := by
  cases effect with
  | refused same => exact ⟨same ▸ gone, rfl⟩
  | inserted _ _ opened => simp [gone] at opened
  | waits same => exact ⟨same ▸ gone, rfl⟩
  | removed _ alive => exact (alive gone).elim
  | metMarker _ alive => exact (alive gone).elim
  | drained same => exact ⟨same ▸ gone, rfl⟩
  | closed _ opened => simp [gone] at opened
  | closedBefore same => exact ⟨same ▸ gone, rfl⟩
  | destroyed _ alive => exact (alive gone).elim
  | counted same => exact ⟨same ▸ gone, rfl⟩
  | judged same => exact ⟨same ▸ gone, rfl⟩
  | peeked _ _ _ _ _ lifecycle => exact ⟨lifecycle.trans gone, rfl⟩
  | panicked _ _ _ _ poisons => exact ⟨poisons ▸ gone, rfl⟩

/-- A call that does not destroy the queue puts an item behind the others, takes the first one out,
or leaves them all where they are. -/
theorem Effect.balance (steady : Steady face isMarker) (effect : Effect q next call reply signal)
    (alive : next.lifecycle ≠ .destroyed) (index : Nat) :
    (q.list ++ (Visit.inserted? ⟨index, call, reply⟩).toList).map face =
      ((Visit.removed? ⟨index, call, reply⟩).toList ++ next.list).map face := by
  cases effect with
  | refused same => simp [Visit.inserted?, Visit.removed?, same]
  | inserted adds _ _ _ _ items => simp [Visit.inserted?, Visit.removed?, adds, items]
  | waits same => simp [Visit.inserted?, Visit.removed?, same]
  | removed _ _ checked items =>
    simp [Visit.inserted?, Visit.removed?, items, steady.keeps checked]
  | metMarker _ _ checked items itemsAfter =>
    simp [Visit.inserted?, Visit.removed?, items, itemsAfter, steady.keeps checked]
  | drained same => simp [Visit.inserted?, Visit.removed?, same]
  | closed _ _ _ _ items => simp [Visit.inserted?, Visit.removed?, Call.item?, items]
  | closedBefore same => simp [Visit.inserted?, Visit.removed?, Call.item?, same]
  | destroyed _ _ _ lifecycle => exact (alive lifecycle).elim
  | counted same => simp [Visit.inserted?, Visit.removed?, same]
  | judged same => simp [Visit.inserted?, Visit.removed?, same]
  | peeked _ checked items itemsAfter =>
    simp [Visit.inserted?, Visit.removed?, items, itemsAfter, steady.keeps checked]
  | panicked _ _ _ _ poisons => simp [Visit.inserted?, Visit.removed?, poisons]

/-- What is taken out of a queue was found not to be a marker. -/
theorem Effect.removed_ne_marker (steady : Steady face isMarker)
    (effect : Effect q next call reply signal) (index : Nat) {item : α}
    (removed : Visit.removed? ⟨index, call, reply⟩ = some item) :
    isMarker (face item) = false := by
  cases effect with
  | removed _ _ checked =>
    cases removed
    rw [steady.keeps checked]
    exact (steady.tells checked).symm
  | _ => cases removed

end SharedQueue

namespace World

variable [Sink σ α]

theorem lifecycle_destroyed_of_move {w next : World σ α} {visit : Option (Visit α)}
    (move : Move w next visit) (gone : w.queue.lifecycle = .destroyed) :
    next.queue.lifecycle = .destroyed ∧ Visit.removed visit.toList = [] := by
  obtain ⟨rfl, same⟩ | ⟨index, call, reply, signal, rfl, effect⟩ := move.effect
  · exact ⟨same ▸ gone, rfl⟩
  · obtain ⟨still, nothing⟩ := effect.of_destroyed gone index
    exact ⟨still, by simp [nothing]⟩

/-- Nothing is taken out of a destroyed queue, whatever happens. -/
theorem removed_of_destroyed {w last : World σ α} {events : List Event}
    (replayed : w.replay? events = some last) (gone : w.queue.lifecycle = .destroyed) :
    last.queue.lifecycle = .destroyed ∧ Visit.removed (w.visits events) = [] := by
  refine run_induction (fun w visits last => w.queue.lifecycle = .destroyed →
    last.queue.lifecycle = .destroyed ∧ Visit.removed visits = []) ?_ ?_ replayed gone
  · exact fun w gone => ⟨gone, rfl⟩
  · intro w next last visit visits move ih gone
    obtain ⟨still, nothing⟩ := lifecycle_destroyed_of_move move gone
    obtain ⟨later, nothingLater⟩ := ih still
    exact ⟨later, by rw [Visit.removed_append, nothing, nothingLater, List.append_nil]⟩

/-- What a queue holds, and then what is put into it, is what is taken out, and then what it holds
in the end. -/
theorem balance_of_replay? (steady : Steady face isMarker) {w last : World σ α}
    {events : List Event} (replayed : w.replay? events = some last)
    (alive : last.queue.lifecycle ≠ .destroyed) :
    (w.queue.list ++ Visit.inserted (w.visits events)).map face =
      (Visit.removed (w.visits events) ++ last.queue.list).map face := by
  refine (run_induction (fun w visits last => last.queue.lifecycle ≠ .destroyed →
    w.queue.lifecycle ≠ .destroyed ∧ (w.queue.list ++ Visit.inserted visits).map face =
      (Visit.removed visits ++ last.queue.list).map face) ?_ ?_ replayed alive).2
  · exact fun w alive => ⟨alive, by simp⟩
  · intro w next last visit visits move ih alive
    obtain ⟨aliveNext, later⟩ := ih alive
    refine ⟨fun gone => aliveNext (lifecycle_destroyed_of_move move gone).1, ?_⟩
    have now : (w.queue.list ++ Visit.inserted visit.toList).map face =
        (Visit.removed visit.toList ++ next.queue.list).map face := by
      obtain ⟨rfl, same⟩ | ⟨index, call, reply, signal, rfl, effect⟩ := move.effect
      · simp [same]
      · simpa using effect.balance steady aliveNext index
    calc (w.queue.list ++ Visit.inserted (visit.toList ++ visits)).map face
        = (w.queue.list ++ Visit.inserted visit.toList).map face ++
            (Visit.inserted visits).map face := by simp
      _ = (Visit.removed visit.toList).map face ++
            (next.queue.list ++ Visit.inserted visits).map face := by rw [now]; simp
      _ = (Visit.removed (visit.toList ++ visits) ++ last.queue.list).map face := by
          rw [later]; simp

/-- No marker is taken out of a queue. -/
theorem removed_ne_marker (steady : Steady face isMarker) {w last : World σ α}
    {events : List Event} (replayed : w.replay? events = some last) :
    ∀ item ∈ Visit.removed (w.visits events), isMarker (face item) = false := by
  refine run_induction (fun _ visits _ =>
    ∀ item ∈ Visit.removed visits, isMarker (face item) = false) ?_ ?_ replayed
  · exact fun _ => nofun
  · intro w next last visit visits move ih item listed
    obtain listed | listed := List.mem_append.mp (Visit.removed_append _ _ ▸ listed)
    · obtain ⟨rfl, _⟩ | ⟨index, call, reply, signal, rfl, effect⟩ := move.effect
      · simp at listed
      · exact effect.removed_ne_marker steady index (by simpa using listed)
    · exact ih item listed

/-- On a new queue, and until it is destroyed, what was inserted is what was removed and then what
is queued, so that its length is the difference of both counts, and the removed items are some of
the first before any marker. Whoever destroys the queue is told how many items had not been removed,
and no item is removed after that. -/
theorem first_in_first_out (steady : Steady face isMarker) {first w : World σ α}
    {events : List Event} (new : first.queue = .empty)
    (replayed : first.replay? events = some w) :
    let inserted := Visit.inserted (first.visits events)
    let removed := Visit.removed (first.visits events)
    (w.queue.lifecycle ≠ .destroyed →
      inserted.map face = removed.map face ++ w.queue.list.map face ∧
      (w.queue.poisoned = false → (w.queue.perform .lock .length).reply =
        some (.count (inserted.length - removed.length))) ∧
      removed.map face <+: (inserted.map face).takeWhile fun item => !isMarker item) ∧
    (∀ item ∈ removed, isMarker (face item) = false) ∧
    ∀ event next index count, w.next? event = some next →
      w.visit? event = some ⟨index, .destroy, some (.count count)⟩ →
      count = inserted.length - removed.length ∧
      ∀ later last, next.replay? later = some last → Visit.removed (next.visits later) = [] := by
  intro inserted removed
  have noMarker : ∀ item ∈ removed, isMarker (face item) = false :=
    removed_ne_marker steady replayed
  have balance (alive : w.queue.lifecycle ≠ .destroyed) :
      inserted.map face = removed.map face ++ w.queue.list.map face := by
    have all := balance_of_replay? steady replayed alive
    rwa [new, SharedQueue.list_empty, List.nil_append, List.map_append] at all
  have difference (alive : w.queue.lifecycle ≠ .destroyed) :
      w.queue.list.length = inserted.length - removed.length := by
    have lengths := congrArg List.length (balance alive)
    simp only [List.length_append, List.length_map] at lengths
    omega
  refine ⟨fun alive => ⟨balance alive, fun sound => ?_, ?_⟩, noMarker, ?_⟩
  · rw [SharedQueue.reply_length sound, difference alive]
  · rw [balance alive, List.takeWhile_append_of_pos (by simpa using noMarker)]
    exact List.prefix_append _ _
  · intro event next index count happens visited
    have move := move_of_next? happens
    rw [visited] at move
    obtain ⟨absent, _⟩ | ⟨_, _, _, _, visit, effect⟩ := move.effect
    · cases absent
    · cases visit
      cases effect with
      | destroyed _ alive _ gone =>
        exact ⟨difference alive, fun later last run => (removed_of_destroyed run gone).2⟩

private def fused (id : UInt16) (fuse : Option Nat) : Scenario.FusedReading :=
  ⟨⟨id, ⟨0⟩, 0⟩, fuse⟩

/-- A thread that inserts two readings around a marker, one that removes twice, and one that
destroys the queue. -/
private def crossing : World Scenario.RuledSink Scenario.FusedReading where
  queue := .empty
  sink := ⟨{}, false⟩
  threads :=
    [{ name := "inserter"
       task := .caller [.insert (fused 7 (some 5)), .insertMarker, .insert (fused 8 none)] [] },
      { name := "remover", task := .caller [.remove, .remove] [] },
      { name := "destroyer", task := .caller [.destroy] [] }]

/-- The remover parks and is woken, takes the first reading, and then meets the marker. -/
private def crossed : List Event :=
  [.step 1 0, .step 0 0, .spurious 1, .step 0 0, .step 1 0, .step 0 0, .step 0 0, .step 1 0,
    .step 0 0]

private def crossingEnd : World Scenario.RuledSink Scenario.FusedReading :=
  (crossing.replay? crossed).get (by decide)

/-- One reading is still queued behind the marker when the queue is destroyed. -/
theorem first_in_first_out_crossing :
    ∃ w next, crossing.replay? crossed = some w ∧ w.next? (.step 2 0) = some next ∧
      (Visit.inserted (crossing.visits crossed)).map Scenario.FusedReading.reading =
        (Visit.removed (crossing.visits crossed)).map Scenario.FusedReading.reading ++
          w.queue.list.map Scenario.FusedReading.reading ∧
      2 = (Visit.inserted (crossing.visits crossed)).length -
        (Visit.removed (crossing.visits crossed)).length ∧
      ∀ later last, next.replay? later = some last → Visit.removed (next.visits later) = [] := by
  have replayed : crossing.replay? crossed = some crossingEnd := (Option.some_get _).symm
  have destroys : (crossingEnd.next? (.step 2 0)).isSome := by decide
  have alive : crossingEnd.queue.lifecycle ≠ .destroyed := by decide
  have visited : crossingEnd.visit? (.step 2 0) = some ⟨2, .destroy, some (.count 2)⟩ := by decide
  obtain ⟨next, happens⟩ := Option.isSome_iff_exists.mp destroys
  obtain ⟨before, _, atDestroy⟩ := first_in_first_out steady_fusedReading rfl replayed
  obtain ⟨count, after⟩ := atDestroy (.step 2 0) next 2 2 happens visited
  exact ⟨crossingEnd, next, replayed, happens, (before alive).1, count, after⟩

end World

end SensorRelay
