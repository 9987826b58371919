import SensorRelay.Proofs.Device.Writer
import SensorRelay.Reading.Writer

/-! # Lines on a device

A reading that a line sink has written is a line at the end of what its device holds. On a reliable
device every reading is written; on one that also takes everything at once, which is what a file
is, the sink takes every reading that it is given.
-/

namespace SensorRelay

/-- A device that takes everything at once. -/
structure Device.Writer.Willing (w : Device.Writer) : Prop where
  unlimited : w.capacity = none
  atOnce : w.chunk = none
  calm : w.interruptions = 0
  flushes : w.failingFlushes = []

namespace Device.Writer

variable {w next : Writer}

theorem Willing.reliable (willing : w.Willing) : w.Reliable :=
  ⟨willing.unlimited, by simp [willing.atOnce], by simp [willing.flushes]⟩

private theorem Willing.after (willing : w.Willing) (after : After w next) : next.Willing where
  unlimited := after.capacity.trans willing.unlimited
  atOnce := after.chunk.trans willing.atOnce
  calm := Nat.eq_zero_of_le_zero (willing.calm ▸ after.interruptions)
  flushes := after.failingFlushes.trans willing.flushes

theorem Willing.writeAll (willing : w.Willing) (content : List UInt8) :
    ∃ next, w.writeAll content = (.ok (), next) ∧ next.Willing ∧
      next.accepted.toList = w.accepted.toList ++ content :=
  have completed := willing.reliable.writeAll content
  ⟨_, Prod.ext completed rfl, willing.after (after_writeAll w content),
    accepted_of_writeAll completed⟩

theorem Willing.flush (willing : w.Willing) :
    ∃ next, w.flush = (.ok (), next) ∧ next.Willing ∧ next.accepted = w.accepted :=
  ⟨{ w with flushes := w.flushes + 1 }, by simp [Writer.flush, willing.flushes],
    { willing with }, rfl⟩

end Device.Writer

/-- The line of a reading with its line end, in bytes. -/
def Reading.line (r : Reading) : List UInt8 := LineSink.bytes ((Line.format r).toList ++ ['\n'])

theorem Reading.line_eq (r : Reading) : r.line = LineSink.bytes (Line.chars r ++ ['\n']) := by
  rw [line, Line.format, String.toList_ofList]

namespace LineSink

variable {sink : LineSink} {r : Reading}

/-- A write is complete when the line, its line end and the flush are. -/
private theorem write_of_steps {first second third : Device.Writer}
    (line : sink.device.writeAll (bytes (Line.chars r)) = (.ok (), first))
    (lineEnd : first.writeAll (bytes ['\n']) = (.ok (), second))
    (flush : second.flush = (.ok (), third)) :
    sink.write r = (.ok (), ⟨third, sink.lines + 1⟩) := by
  obtain ⟨device, lines⟩ := sink
  simp only [LineSink.write, line, lineEnd, flush]

private theorem steps_of_write (completed : (sink.write r).1 = .ok ()) :
    ∃ first second third,
      sink.device.writeAll (bytes (Line.chars r)) = (.ok (), first) ∧
        first.writeAll (bytes ['\n']) = (.ok (), second) ∧ second.flush = (.ok (), third) := by
  obtain ⟨device, lines⟩ := sink
  unfold write at completed
  dsimp only at completed
  split at completed
  · cases completed
  · next first line =>
    split at completed
    · cases completed
    · next second lineEnd =>
      split at completed
      · cases completed
      · next third flush => exact ⟨first, second, third, line, lineEnd, flush⟩

/-- What has been written is one line more on the device. -/
theorem content_of_write (completed : (sink.write r).1 = .ok ()) :
    (sink.write r).2.content = sink.content ++ r.line := by
  obtain ⟨first, second, third, line, lineEnd, flush⟩ := steps_of_write completed
  have afterLine := Device.Writer.accepted_of_writeAll (congrArg Prod.fst line)
  have afterEnd := Device.Writer.accepted_of_writeAll (congrArg Prod.fst lineEnd)
  have afterFlush : third.accepted = second.accepted := congrArg (·.2.accepted) flush.symm
  rw [line] at afterLine
  rw [lineEnd] at afterEnd
  rw [write_of_steps line lineEnd flush, content, afterFlush, afterEnd, afterLine, content,
    List.append_assoc, r.line_eq, bytes, bytes, bytes, List.map_append]

/-- A reliable device takes every line, and stays reliable. -/
theorem write_of_reliable (reliable : sink.device.Reliable) (r : Reading) :
    (sink.write r).1 = .ok () ∧ (sink.write r).2.device.Reliable := by
  have line := reliable.writeAll (bytes (Line.chars r))
  have afterLine := (Device.Writer.after_writeAll _ (bytes (Line.chars r))).reliable reliable
  have lineEnd := afterLine.writeAll (bytes ['\n'])
  have afterEnd := (Device.Writer.after_writeAll _ (bytes ['\n'])).reliable afterLine
  obtain ⟨flush, afterFlush⟩ := afterEnd.flush
  rw [write_of_steps (Prod.ext line rfl) (Prod.ext lineEnd rfl) (Prod.ext flush rfl)]
  exact ⟨rfl, afterFlush⟩

/-- A line sink takes a reading and appends its line, if its device does. -/
theorem judge_of_willing {sink : LineSink} (willing : sink.device.Willing) (r : Reading) :
    ∃ next, sink.judge r = (.taken, next) ∧ next.device.Willing ∧
      next.device.accepted.toList = sink.device.accepted.toList ++ r.line := by
  obtain ⟨first, line, afterLine, _⟩ := willing.writeAll (bytes (Line.chars r))
  obtain ⟨second, lineEnd, afterEnd, _⟩ := afterLine.writeAll (bytes ['\n'])
  obtain ⟨third, flush, afterFlush, _⟩ := afterEnd.flush
  have written := write_of_steps line lineEnd flush
  have content := content_of_write (congrArg Prod.fst written)
  rw [written] at content
  exact ⟨⟨third, sink.lines + 1⟩, by rw [judge, written], afterFlush, content⟩

end LineSink

end SensorRelay
