import SensorRelay.Proofs.Log.Channel
import SensorRelay.Relay.Run

/-! # Files that follow

However often the files follow the threads, the output is what it was at first and after it what the
sink has accepted up to the last time (`Run.Follows`). The input stays as it is, and so does what
is known of the threads.
-/

namespace SensorRelay.Relay.Run

@[simp] theorem world_follow (run : Run) : run.follow.world = run.world := by
  unfold follow followJournal
  split <;> rfl

@[simp] theorem reader_follow (run : Run) : run.follow.reader = run.reader := by
  unfold follow followJournal
  split <;> rfl

@[simp] theorem input_follow (run : Run) : run.follow.input = run.input := by
  unfold follow followJournal
  split <;> rfl

@[simp] theorem ahead_follow (run : Run) : run.follow.ahead = run.ahead := by
  unfold follow followJournal
  split <;> rfl

/-- The bytes that the sink of a run has accepted. -/
def accepted (run : Run) : List UInt8 := run.world.sink.value.device.accepted.toList

@[simp] theorem written_follow (run : Run) : run.follow.written = run.accepted.length := by
  unfold follow followJournal
  split <;> simp [followSink, accepted]

/-- The files of a run as they should be: `content` is in the input, and the output holds `base` and
what it has got since. The log goes elsewhere. -/
structure Follows (place target : Files.Place) (content base : List UInt8) (run : Run) : Prop where
  input : run.input.place = place
  output : run.output.place = target
  intact : run.files.find? place = some (.file content)
  bound : run.written ≤ run.accepted.length
  atEnd : run.output.AtEnd run.files (base ++ run.accepted.take run.written)
  logged : run.logPlace? ≠ some place ∧ run.logPlace? ≠ some target

variable {place target : Files.Place} {content base : List UInt8} {run : Run}

/-- The files are as they should be whatever the threads do, as long as what the sink has accepted
stays accepted. -/
theorem Follows.of_prefix (follows : run.Follows place target content base)
    {world : World LineSink Reading} (grows : run.accepted <+: accepted { run with world })
    (times : List Nat) : Follows place target content base { run with world, times } := by
  obtain ⟨more, same⟩ := grows
  have still : run.accepted.take run.written =
      (accepted { run with world }).take run.written := by
    rw [← same, List.take_append_of_le_length follows.bound]
  have atEnd := still ▸ follows.atEnd
  have length := congrArg List.length same
  rw [List.length_append] at length
  have bound : run.written ≤ run.accepted.length + more.length :=
    Nat.le_add_right_of_le follows.bound
  rw [length] at bound
  exact { follows with bound, atEnd }

private theorem Follows.followSink (apart : place ≠ target)
    (follows : run.Follows place target content base) :
    run.followSink.Follows place target content base := by
  let bytes := (run.world.sink.value.device.accepted.extract run.written
    run.world.sink.value.device.accepted.size).toList
  have rest : bytes = run.accepted.drop run.written := by
    simp [bytes, accepted, List.take_of_length_le]
  have size : run.followSink.written = run.accepted.length := by simp [Run.followSink, accepted]
  -- What is written now comes right after what was written before.
  have whole : run.accepted.take run.written ++ bytes =
      run.accepted.take run.followSink.written := by
    rw [rest, List.take_append_drop, size, List.take_length]
  have grown := follows.atEnd.write bytes
  rw [List.append_assoc, whole] at grown
  have directories := follows.atEnd.sameDirectories_write bytes
  have log : run.followSink.logPlace? = run.logPlace? :=
    Option.bind_congr fun c _ => Log.Channel.place?_of_sameDirectories directories c
  exact {
    input := follows.input
    output := (Files.Handle.place_write bytes).trans follows.output
    intact := (Files.Handle.find?_write_of_ne (follows.output ▸ apart) bytes).trans follows.intact
    bound := Nat.le_of_eq size
    atEnd := grown
    logged := log ▸ follows.logged }

private theorem Follows.followJournal (follows : run.Follows place target content base) :
    run.followJournal.Follows place target content base := by
  have log := follows.logged
  unfold logPlace? at log
  unfold Run.followJournal
  split
  · next missing => exact { follows with }
  · next c channel =>
    simp only [channel, Option.bind_some] at log
    exact {
      input := follows.input
      output := follows.output
      intact := (Log.Channel.find?_log log.1 _).trans follows.intact
      bound := follows.bound
      atEnd := follows.atEnd.of_find? (by rw [follows.output, Log.Channel.find?_log log.2])
      logged := by simpa only [logPlace?, Option.bind_some, Log.Channel.place?_log] using log }

/-- The files are as they should be after they have followed. -/
theorem Follows.follow (apart : place ≠ target) (follows : run.Follows place target content base) :
    run.follow.Follows place target content base :=
  (follows.followSink apart).followJournal

/-- Once the files have followed, all that the sink has accepted is in the output. -/
theorem Follows.output_follow (apart : place ≠ target)
    (follows : run.Follows place target content base) :
    run.follow.files.find? target = some (.file (base ++ run.accepted)) := by
  have after := follows.follow apart
  have found := after.atEnd.found
  have accepted : run.follow.accepted = run.accepted := by
    rw [Run.accepted, world_follow, Run.accepted]
  rwa [after.output, written_follow, accepted, List.take_length] at found

end SensorRelay.Relay.Run
