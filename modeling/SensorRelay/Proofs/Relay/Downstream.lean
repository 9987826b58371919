import SensorRelay.Proofs.Reading.Sink
import SensorRelay.Proofs.Relay.Interleaving

/-! # From the queue to the sink

Each consumer writes what it has taken, in that order, and has at most one reading in hand. What is
taken and what is written carry the places of their consumers, so the shares of a consumer are what
it has taken and what it has written.
-/

namespace SensorRelay

def Consumer.hand {α : Type} (c : Consumer α) : List α :=
  match c.phase with
  | .delivering item => [item]
  | _ => []

/-- A consumer has written all that it has taken but what it has in hand, has met no failure, and
has only ended when the stream was `dry`. -/
structure Consumer.Carries (c : Consumer Reading) (taken written : List Reading) (dry : Prop) :
    Prop where
  moves : taken = written ++ c.hand
  delivered : c.report.delivered = written.length
  sinkFailures : c.report.sinkFailures = 0
  removeFailures : c.report.removeFailures = 0
  ended : ∀ {ending}, c.phase = .ended ending → ending = .finished c.report ∧ dry

structure Downstream (taken written : List (Nat × Reading)) (consumers : List (Consumer Reading))
    (sink : Monitor LineSink) (dry : Prop) : Prop where
  bounded : ∀ entry ∈ taken ++ written, entry.1 < consumers.length
  carries : ∀ {place : Nat} {c : Consumer Reading}, consumers[place]? = some c →
    c.Carries (share place taken) (share place written) dry
  sound : sink.poisoned = false
  willing : sink.value.device.Willing
  accepted : sink.value.device.accepted.toList = written.flatMap fun entry => entry.2.line

namespace Downstream

variable {taken written : List (Nat × Reading)} {consumers : List (Consumer Reading)}
  {sink : Monitor LineSink} {dry : Prop} {place : Nat} {c : Consumer Reading}

/-- A stream that is dry stays so for those that have ended. -/
theorem mono (down : Downstream taken written consumers sink dry) {later : Prop}
    (still : dry → later) : Downstream taken written consumers sink later :=
  { down with
    carries := fun here =>
      let carries := down.carries here
      { carries with ended := fun phase => (carries.ended phase).imp_right still } }

/-- One consumer goes on, and the others stay as they are. -/
private theorem carries_set (down : Downstream taken written consumers sink dry)
    {takenNext writtenNext : List (Nat × Reading)} {next : Consumer Reading}
    (own : next.Carries (share place takenNext) (share place writtenNext) dry)
    (others : ∀ other ≠ place, share other takenNext = share other taken ∧
      share other writtenNext = share other written) {other : Nat} {found : Consumer Reading}
    (here : (consumers.set place next)[other]? = some found) :
    found.Carries (share other takenNext) (share other writtenNext) dry := by
  rw [List.getElem?_set] at here
  split at here
  · next same =>
    subst same
    split at here
    · cases here
      exact own
    · cases here
  · next apart =>
    obtain ⟨first, second⟩ := others other (Ne.symm apart)
    rw [first, second]
    exact down.carries here

theorem take (down : Downstream taken written consumers sink dry)
    (here : consumers[place]? = some c) {failures : Nat} (phase : c.phase = .removing failures)
    (r : Reading) :
    Downstream (taken ++ [(place, r)]) written
      (consumers.set place (c.afterRemove failures (.item r)).1) sink dry := by
  have bound := (List.getElem?_eq_some_iff.mp here).1
  have before := down.carries here
  have moves := before.moves
  simp only [Consumer.hand, phase, List.append_nil] at moves
  refine { down with bounded := ?_, carries := down.carries_set ?_ ?_ }
  · rw [List.length_set]
    intro entry listed
    simp only [List.mem_append, List.mem_singleton] at listed
    obtain (listed | rfl) | listed := listed
    · exact down.bounded entry (List.mem_append_left _ listed)
    · exact bound
    · exact down.bounded entry (List.mem_append_right _ listed)
  · refine { before with moves := ?_, ended := ?_ }
    · simp [Consumer.afterRemove, Consumer.hand, moves]
    · simp [Consumer.afterRemove]
  · intro other apart
    simp [share_cons_of_ne apart.symm]

theorem finish (down : Downstream taken written consumers sink dry)
    (here : consumers[place]? = some c) {failures : Nat} (phase : c.phase = .removing failures)
    (isDry : dry) :
    Downstream taken written (consumers.set place (c.afterRemove failures .endOfStream).1) sink
      dry := by
  have before := down.carries here
  have moves := before.moves
  simp only [Consumer.hand, phase, List.append_nil] at moves
  refine { down with bounded := ?_, carries := down.carries_set ?_ fun _ _ => ⟨rfl, rfl⟩ }
  · rw [List.length_set]
    exact down.bounded
  · refine { before with moves := ?_, ended := ?_ }
    · simp [Consumer.afterRemove, Consumer.hand, moves]
    · rintro ending ended
      cases ended
      exact ⟨rfl, isDry⟩

theorem deliver (down : Downstream taken written consumers sink dry)
    (here : consumers[place]? = some c) {r : Reading} (phase : c.phase = .delivering r) :
    Downstream taken (written ++ [(place, r)]) (consumers.set place (c.deliver r sink).1)
      (c.deliver r sink).2.1 dry := by
  have bound := (List.getElem?_eq_some_iff.mp here).1
  have before := down.carries here
  have moves := before.moves
  simp only [Consumer.hand, phase] at moves
  obtain ⟨next, judged, willing, accepted⟩ := LineSink.judge_of_willing down.willing r
  have takes : Sink.write sink.value r = (Verdict.taken, next) := judged
  have delivered : c.deliver r sink =
      ((c.afterWrite r .taken).1, ⟨next, false⟩, (c.afterWrite r .taken).2) := by
    simp only [Consumer.deliver, Monitor.lock, Monitor.lockAt, down.sound, Bool.false_eq_true,
      if_false, takes]
    rfl
  rw [delivered]
  refine { bounded := ?_, carries := down.carries_set ?_ ?_, sound := rfl, willing, accepted := ?_ }
  · rw [List.length_set]
    intro entry listed
    rw [← List.append_assoc, List.mem_append, List.mem_singleton] at listed
    obtain listed | rfl := listed
    · exact down.bounded entry listed
    · exact bound
  · refine { before with moves := ?_, delivered := ?_, ended := ?_ }
    · simp [Consumer.afterWrite, Consumer.hand, moves]
    · simp [Consumer.afterWrite, before.delivered]
    · simp [Consumer.afterWrite]
  · intro other apart
    simp [share_cons_of_ne apart.symm]
  · rw [accepted, down.accepted, List.flatMap_append, List.flatMap_singleton]

end Downstream

end SensorRelay
