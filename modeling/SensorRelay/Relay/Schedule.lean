import SensorRelay.Relay.Run

/-! # Schedules

The threads of a run may take their steps in any order, and the files may follow them at any time.
A run is over once the producer has been waited for and then the consumers, and the queue has been
destroyed. The order that is played is one of those orders.
-/

namespace SensorRelay

def Thread.isDone {α : Type} (thread : Thread α) : Bool :=
  thread.task.hasEnded && thread.standing == .ready

def Task.isProducer {α : Type} : Task α → Bool
  | .producer _ => true
  | _ => false

namespace Relay.Run

/-- A thread takes a step, or wakes up for no reason, or the files follow. Nothing depends on how
long threads have worked. -/
inductive Turn (run : Run) : Run → Prop
  | step {index : Nat} (able : run.world.canStep index) (choice : Nat) (times : List Nat) :
      Turn run { run.supply index with
        world := (run.supply index).world.step index choice, times }
  | wake {index : Nat} (asleep : index ∈ run.world.parked) :
      Turn run { run with world := run.world.wake index }
  | follow : Turn run run.follow

inductive Turns : Run → Run → Prop
  | refl (run : Run) : Turns run run
  | next {first middle last : Run} (before : Turns first middle) (turn : Turn middle last) :
      Turns first last

/-- A way in which a run can come to its end: the producer is waited for, then the consumers. -/
def Ends (first : Run) (result : Except RelayFault RelayReport) (last : Run) : Prop :=
  ∃ middle final : Run,
    first.Turns middle ∧
    (∀ thread ∈ middle.world.threads, thread.task.isProducer → thread.isDone) ∧
    Turns { middle with world := (concludeProducer middle.world).2 } final ∧
    (∀ thread ∈ final.world.threads, thread.isDone) ∧
    result = (concludeRun (concludeProducer middle.world).1 final.world).1 ∧
    last = follow
      { final with world := (concludeRun (concludeProducer middle.world).1 final.world).2 }

theorem Turns.trans {first middle last : Run} (before : Turns first middle)
    (after : Turns middle last) : Turns first last := by
  induction after with
  | refl => exact before
  | next _ turn ih => exact .next ih turn

/-- The thread that goes next can go. -/
theorem canStep_of_firstOf {place index time : Nat} {threads : List (Thread Reading)}
    {times : List Nat} (found : firstOf place threads times = some (index, time)) :
    ∃ offset, index = place + offset ∧ threads[offset]?.any Thread.canStep := by
  induction threads generalizing place index time times with
  | nil => simp [firstOf] at found
  | cons thread rest ih =>
    cases times with
    | nil => simp [firstOf] at found
    | cons first times =>
      have here (able : thread.canStep = true) (same : place = index) :
          ∃ offset, index = place + offset ∧ (thread :: rest)[offset]?.any Thread.canStep :=
        ⟨0, same.symm, able⟩
      rw [firstOf] at found
      split at found
      · next able =>
        simp only [Option.some.injEq, Prod.mk.injEq] at found
        exact here (Bool.and_eq_true_iff.mp able).1 found.1
      · split at found
        · next other least later =>
          split at found
          · next able =>
            simp only [Option.some.injEq, Prod.mk.injEq] at found
            exact here (Bool.and_eq_true_iff.mp able).1 found.1
          · simp only [Option.some.injEq, Prod.mk.injEq] at found
            obtain ⟨offset, rfl, able⟩ := ih later
            exact ⟨offset + 1, by omega, able⟩
        · split at found
          · next able =>
            simp only [Option.some.injEq, Prod.mk.injEq] at found
            exact here able found.1
          · cases found

/-- The order that is played is one of those that can be. -/
theorem turns_settle (isShared : Bool) (steps : Nat) (run : Run) :
    Turns run (run.settle isShared steps) := by
  induction steps generalizing run with
  | zero => exact .refl run
  | succ steps ih =>
    unfold settle
    split
    · exact .refl run
    · next index found =>
      obtain ⟨⟨_, time⟩, first, rfl⟩ := Option.map_eq_some_iff.mp found
      obtain ⟨offset, rfl, able⟩ := canStep_of_firstOf first
      have one : Turns run (run.advance (0 + offset)) :=
        .next (.refl run) (.step (by rwa [World.canStep, Nat.zero_add]) 0 _)
      cases isShared with
      | false => exact one.trans (ih _)
      | true => exact (one.next .follow).trans (ih _)

/-- A run that is played to its end has come to an end. -/
theorem ends_of_finish {run middle final : Run} {records : Nat}
    (first : run.settle run.isShared (run.steps records) = middle)
    (second : settle run.isShared (run.steps records)
      (follow { middle with world := (concludeProducer middle.world).2 }) = final)
    (producer : ∀ thread ∈ middle.world.threads, thread.task.isProducer → thread.isDone)
    (all : ∀ thread ∈ final.world.threads, thread.isDone) :
    run.Ends (run.finish records).1 (run.finish records).2 := by
  have whole : run.finish records =
      ((concludeRun (concludeProducer middle.world).1 final.world).1,
        follow { final with world :=
          (concludeRun (concludeProducer middle.world).1 final.world).2 }) := by
    simp only [finish, first, second]
  have begins : run.Turns middle := first ▸ turns_settle _ _ run
  have goesOn := turns_settle run.isShared (run.steps records)
    (follow { middle with world := (concludeProducer middle.world).2 })
  rw [second] at goesOn
  rw [whole]
  exact ⟨middle, final, begins, producer, (Turns.next (.refl _) .follow).trans goesOn, all, rfl,
    rfl⟩

end Relay.Run

end SensorRelay
