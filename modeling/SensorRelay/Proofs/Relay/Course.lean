import SensorRelay.Proofs.Relay.Flow
import SensorRelay.Proofs.Relay.Intake
import SensorRelay.Relay.Schedule

/-! # The course of a run

A run of a relay on two files keeps its files, its reader and its threads together: the elements
that its reader has not given yet are those that are ahead of its threads. Every turn keeps it on
this course, so it stays there whatever the schedule is (`Run.OnCourse.turns`).
-/

namespace SensorRelay

/-- A relay goes on with everything that can happen while there is memory enough. -/
theorem Flow.of_next? {settings : Settings} {elements ahead : List (Drawn Reading)}
    {ledger : Ledger} {w next : World LineSink Reading} {event : World.Event}
    (someone : 1 ≤ settings.consumers) (plenty : ∀ index, event ≠ .shortage index)
    (happens : w.next? event = some next)
    (fed : w.isDrawing 0 → ahead = [] ∨ next.tasks[0]? = w.tasks[0]?)
    (flow : Flow settings elements ahead ledger w) :
    ∃ later, Flow settings elements ahead later next ∧ ledger.written <+: later.written := by
  have memory (seen : Visit Reading) (visited : w.visit? event = some seen) :=
    World.ne_allocation_of_supplied plenty visited
  exact flow.of_act someone (World.move_of_next? happens).act memory fed

namespace Relay.Run

/-- A run on its way through the content of its input. -/
structure Course (settings : Settings) (place target : Files.Place) (content base : List UInt8)
    (ahead : List (Drawn Reading)) (ledger : Ledger) (run : Run) : Prop where
  follows : run.Follows place target content base
  reads : run.Reads content ahead
  flow : Flow settings (elementsOf content) ahead ledger run.world

def OnCourse (settings : Settings) (place target : Files.Place) (content base : List UInt8)
    (run : Run) : Prop :=
  ∃ ahead ledger, Course settings place target content base ahead ledger run

variable {settings : Settings} {place target : Files.Place} {content base : List UInt8}
  {ahead : List (Drawn Reading)} {ledger : Ledger} {run next first last : Run}

theorem Course.accepted (course : Course settings place target content base ahead ledger run) :
    run.accepted = ledger.written.flatMap fun entry => entry.2.line :=
  course.flow.downstream.accepted

/-- Something happens to the threads. -/
private theorem Course.of_next?
    (course : Course settings place target content base ahead ledger run)
    (someone : 1 ≤ settings.consumers) {event : World.Event} {world : World LineSink Reading}
    (plenty : ∀ index, event ≠ .shortage index) (happens : run.world.next? event = some world)
    (fed : run.world.isDrawing 0 → ahead = [] ∨ world.tasks[0]? = run.world.tasks[0]?)
    (times : List Nat) :
    OnCourse settings place target content base { run with world, times } := by
  obtain ⟨later, flow, more⟩ := course.flow.of_next? someone plenty happens fed
  have grows : run.accepted <+: Run.accepted { run with world } := by
    obtain ⟨new, same⟩ := more
    rw [course.accepted, Run.accepted, flow.downstream.accepted, ← same, List.flatMap_append]
    exact List.prefix_append _ _
  exact ⟨ahead, later, course.follows.of_prefix grows times, { course.reads with }, flow⟩

/-- A supply keeps a run on its course, and afterwards the producer draws only what there is. -/
private theorem Course.supply (apart : place ≠ target)
    (course : Course settings place target content base ahead ledger run) (index : Nat) :
    ∃ later ledger, Course settings place target content base later ledger (run.supply index) ∧
      ((run.supply index).world.isDrawing index → later = []) ∧
      (run.supply index).world.canStep index = run.world.canStep index := by
  obtain ⟨later, follows, reads, ⟨world, rfl, dry⟩ | ⟨element, rfl, drawing, world⟩⟩ :=
    course.reads.supply apart course.follows index
  · refine ⟨later, ledger, ⟨follows, reads, world ▸ course.flow⟩, ?_, by rw [world]⟩
    rwa [world]
  · obtain ⟨p, here⟩ := World.task_of_isDrawing drawing
    obtain ⟨rfl, _⟩ | ⟨_, _, _, _, other⟩ := course.flow.task_cases here
    · obtain ⟨supplied, flow⟩ := course.flow.supply
      refine ⟨later, supplied, ⟨follows, reads, world ▸ flow⟩, ?_, ?_⟩
      · simp [world, World.isDrawing_supply]
      · rw [world, World.canStep_supply]
    · cases other

/-- Every turn keeps a run on its course. -/
theorem OnCourse.turn (apart : place ≠ target) (someone : 1 ≤ settings.consumers)
    (onCourse : OnCourse settings place target content base run) (turn : run.Turn next) :
    OnCourse settings place target content base next := by
  obtain ⟨ahead, ledger, course⟩ := onCourse
  cases turn with
  | @step index able choice times =>
    obtain ⟨later, supplied, course, dry, canStep⟩ := course.supply apart index
    have happens : (run.supply index).world.next? (.step index choice) =
        some ((run.supply index).world.step index choice) := by
      rw [World.next?, canStep, if_pos able]
    refine course.of_next? someone (by simp) happens (fun drawing => ?_) times
    -- The producer is the first thread; the steps of the others leave it alone.
    obtain rfl | other := eq_or_ne 0 index
    · exact .inl (dry drawing)
    · exact .inr (World.getElem?_tasks_step _ other choice)
  | @wake index asleep =>
    have happens : run.world.next? (.spurious index) = some (run.world.wake index) := by
      rw [World.next?, if_pos asleep]
    exact course.of_next? someone (by simp) happens
      (fun _ => .inr (by rw [World.tasks_wake])) run.times
  | follow =>
    exact ⟨ahead, ledger, course.follows.follow apart, course.reads.follow,
      (world_follow run).symm ▸ course.flow⟩

/-- So does every schedule. -/
theorem OnCourse.turns (apart : place ≠ target) (someone : 1 ≤ settings.consumers)
    (onCourse : OnCourse settings place target content base first) (turns : Turns first last) :
    OnCourse settings place target content base last := by
  induction turns with
  | refl => exact onCourse
  | next _ turn ih => exact ih.turn apart someone turn

end Relay.Run

end SensorRelay
