import SensorRelay.Proofs.Reading.Line
import SensorRelay.Proofs.Reading.Sink

/-! # Lines on a device that fails

A line sink is used on after faults. A write can end in three ways (`Written`): the device is full
in the middle of the line, the line is there but the flush after it fails, or all goes well. The
line ends on the device are therefore as many as the lines that count and the flushes that failed.
-/

namespace SensorRelay

/-- The flushes so far that have failed. -/
def Device.Writer.failedFlushes (w : Device.Writer) : Nat :=
  (List.range' 1 w.flushes).countP (· ∈ w.failingFlushes)

theorem Device.Writer.failedFlushes_of_flushed {w next : Device.Writer}
    (same : next.failingFlushes = w.failingFlushes) (flushed : next.flushes = w.flushes + 1) :
    next.failedFlushes =
      w.failedFlushes + if w.flushes + 1 ∈ w.failingFlushes then 1 else 0 := by
  unfold failedFlushes
  rw [same, flushed, List.range'_1_concat, List.countP_append, Nat.add_comm 1 w.flushes]
  simp only [List.countP_singleton, decide_eq_true_eq]

namespace LineSink

/-- The byte at the end of each line. -/
def lineEnd : UInt8 := 10

theorem lineEnd_notMem (r : Reading) : lineEnd ∉ bytes (Line.chars r) := by
  intro listed
  obtain ⟨c, written, same⟩ := List.mem_map.mp listed
  obtain ⟨ascii, other⟩ := Line.chars_ascii r c written
  have code : c.toNat = 10 := by
    have := congrArg UInt8.toNat same
    rw [UInt8.toNat_ofNat_of_lt' (Nat.lt_of_lt_of_le ascii (by decide))] at this
    exact this
  have ended : c = '\n' := Char.toNat_inj.mp code
  rw [ended] at other
  exact absurd other (by decide)

theorem line_eq_bytes (r : Reading) : r.line = bytes (Line.chars r) ++ [lineEnd] := by
  rw [r.line_eq, bytes, List.map_append]
  rfl

theorem length_line_pos (r : Reading) : 0 < r.line.length := by
  rw [line_eq_bytes, List.length_append]
  exact Nat.succ_pos _

/-- A line has a line end if it is whole, and none if it was cut. -/
theorem count_take_line (r : Reading) {amount : Nat} (within : amount ≤ r.line.length) :
    (r.line.take amount).count lineEnd = if amount = r.line.length then 1 else 0 := by
  have noLineEnd := List.count_eq_zero.mpr (lineEnd_notMem r)
  split
  · next whole =>
    rw [whole, List.take_length, line_eq_bytes, List.count_append, noLineEnd]
    rfl
  · next cut =>
    rw [line_eq_bytes, List.length_append, List.length_singleton] at within cut
    rw [line_eq_bytes, List.take_append_of_le_length (by omega)]
    exact List.count_eq_zero.mpr fun listed => lineEnd_notMem r (List.mem_of_mem_take listed)

/-- How a write can end, what it gives, and what is counted then. -/
inductive Written (sink next : LineSink) (r : Reading) (result : Except ReadingFault Unit) : Prop
  | cut {text : String} (short : sink.device.room r.line.length ≠ r.line.length)
    (failed : result = .error (.device text))
    (flushes : next.device.flushes = sink.device.flushes) (lines : next.lines = sink.lines)
  | unflushed {text : String} (fits : sink.device.room r.line.length = r.line.length)
    (fails : sink.device.flushes + 1 ∈ sink.device.failingFlushes)
    (failed : result = .error (.device text))
    (flushes : next.device.flushes = sink.device.flushes + 1) (lines : next.lines = sink.lines)
  | whole (fits : sink.device.room r.line.length = r.line.length)
    (goes : sink.device.flushes + 1 ∉ sink.device.failingFlushes) (completed : result = .ok ())
    (flushes : next.device.flushes = sink.device.flushes + 1) (lines : next.lines = sink.lines + 1)

variable {sink : LineSink}

/-- What the device holds after a write is as much of the line as there was room for, and the write
has ended in one of the three ways. -/
theorem written_write (moving : sink.device.chunk ≠ some 0) (r : Reading) :
    Device.Writer.Filled sink.device (sink.write r).2.device r.line ∧
      Written sink (sink.write r).2 r (sink.write r).1 := by
  obtain ⟨device, lines⟩ := sink
  have filled := Device.Writer.Filled.writeAll moving (bytes (Line.chars r))
  have completed := Device.Writer.writeAll_eq_ok_iff moving (bytes (Line.chars r))
  have flushes := (Device.Writer.after_writeAll device (bytes (Line.chars r))).flushes
  have both := filled.fits_append_iff [lineEnd]
  rw [← line_eq_bytes] at both
  dsimp only at filled completed flushes both
  unfold write
  dsimp only
  split
  · next text first result =>
    rw [result] at filled completed flushes
    have cut : device.room (bytes (Line.chars r)).length ≠ (bytes (Line.chars r)).length :=
      fun fits => nomatch completed.mpr fits
    rw [line_eq_bytes]
    refine ⟨filled.full (Nat.lt_of_le_of_ne (device.room_le _) cut) _, ?_⟩
    exact .cut (fun fits => cut (both.mp fits).1) rfl flushes rfl
  · next first result =>
    rw [result] at filled completed flushes both
    have movingOn : first.chunk ≠ some 0 := filled.chunk ▸ moving
    have filledEnd := filled.append (Device.Writer.Filled.writeAll movingOn [lineEnd])
    have completedEnd := Device.Writer.writeAll_eq_ok_iff movingOn [lineEnd]
    have flushesEnd := (Device.Writer.after_writeAll first [lineEnd]).flushes.trans flushes
    rw [← line_eq_bytes] at filledEnd
    split
    · next text second resultEnd =>
      change first.writeAll [lineEnd] = _ at resultEnd
      rw [resultEnd] at filledEnd completedEnd flushesEnd
      refine ⟨filledEnd, ?_⟩
      exact .cut (fun fits => nomatch completedEnd.mpr (both.mp fits).2) rfl flushesEnd rfl
    · next second resultEnd =>
      change first.writeAll [lineEnd] = _ at resultEnd
      rw [resultEnd] at filledEnd completedEnd flushesEnd
      have fits : device.room r.line.length = r.line.length :=
        both.mpr ⟨completed.mp rfl, completedEnd.mp rfl⟩
      have flushed : second.flush.2.flushes = device.flushes + 1 :=
        congrArg (· + 1) flushesEnd
      have calm := second.flush_eq_ok_iff
      have filledAll := filledEnd.flush
      rw [show second.flushes = device.flushes from flushesEnd,
        show second.failingFlushes = device.failingFlushes from filledEnd.failingFlushes] at calm
      split
      · next text third flush =>
        rw [flush] at flushed calm filledAll
        have fails := Classical.not_not.mp fun goes => nomatch calm.mpr goes
        exact ⟨filledAll, .unflushed fits fails rfl flushed rfl⟩
      · next third flush =>
        rw [flush] at flushed calm filledAll
        exact ⟨filledAll, .whole fits (calm.mp rfl) rfl flushed rfl⟩

/-- Every write keeps the line ends on the device in balance with the lines that count and the
flushes that failed. -/
def Balanced (sink : LineSink) : Prop :=
  sink.content.count lineEnd = sink.lines + sink.device.failedFlushes

theorem balanced_write (moving : sink.device.chunk ≠ some 0) (r : Reading)
    (balanced : sink.Balanced) : (sink.write r).2.Balanced := by
  obtain ⟨filled, written⟩ := written_write moving r
  have ends : (sink.write r).2.content.count lineEnd = sink.content.count lineEnd +
      if sink.device.room r.line.length = r.line.length then 1 else 0 := by
    rw [content, filled.accepted, List.count_append, content,
      count_take_line r (sink.device.room_le _)]
  unfold Balanced at balanced ⊢
  rw [ends, balanced]
  cases written with
  | cut short failed flushes lines =>
    have same : (sink.write r).2.device.failedFlushes = sink.device.failedFlushes := by
      rw [Device.Writer.failedFlushes, flushes, filled.failingFlushes, Device.Writer.failedFlushes]
    rw [if_neg short, same, lines, Nat.add_zero]
  | unflushed fits fails failed flushes lines =>
    rw [if_pos fits, Device.Writer.failedFlushes_of_flushed filled.failingFlushes flushes,
      if_pos fails, lines, Nat.add_assoc]
  | whole fits goes completed flushes lines =>
    rw [if_pos fits, Device.Writer.failedFlushes_of_flushed filled.failingFlushes flushes,
      if_neg goes, lines]
    omega

theorem lines_write (moving : sink.device.chunk ≠ some 0) (r : Reading) :
    (sink.write r).2.lines = sink.lines + if (sink.write r).1.isOk then 1 else 0 := by
  obtain ⟨_, failed, _, lines⟩ | ⟨_, _, failed, _, lines⟩ | ⟨_, _, completed, _, lines⟩ :=
    (written_write moving r).2
  · rw [lines, failed]
    rfl
  · rw [lines, failed]
    rfl
  · rw [lines, completed]
    rfl

/-- Whether there is room for a line decides on the flush after it, and both on the result. -/
theorem flushed_write (moving : sink.device.chunk ≠ some 0) (r : Reading) :
    ((sink.write r).2.device.flushes = sink.device.flushes +
        if sink.device.room r.line.length = r.line.length then 1 else 0) ∧
      ((sink.write r).1 = .ok () ↔ sink.device.room r.line.length = r.line.length ∧
        (sink.write r).2.device.flushes ∉ sink.device.failingFlushes) := by
  obtain ⟨short, failed, flushes, _⟩ | ⟨fits, fails, failed, flushes, _⟩ |
    ⟨fits, goes, completed, flushes, _⟩ := (written_write moving r).2
  · rw [failed, flushes, if_neg short]
    exact ⟨rfl, by simp [short]⟩
  · rw [failed, flushes, if_pos fits]
    exact ⟨rfl, by simp [fails]⟩
  · rw [completed, flushes, if_pos fits]
    exact ⟨rfl, by simp [fits, goes]⟩

section Run

variable {readings : List Reading}

theorem writeEach_append (sink : LineSink) (first second : List Reading) :
    sink.writeEach (first ++ second) =
      let before := sink.writeEach first
      let later := before.2.writeEach second
      (before.1 ++ later.1, later.2) := by
  induction first generalizing sink with
  | nil => rfl
  | cons r rest ih =>
    rw [List.cons_append, writeEach_cons, writeEach_cons]
    dsimp only
    rw [ih]
    rfl

theorem length_writeEach (sink : LineSink) (readings : List Reading) :
    (sink.writeEach readings).1.length = readings.length := by
  induction readings generalizing sink with
  | nil => rfl
  | cons r rest ih =>
    rw [writeEach_cons, List.length_cons, List.length_cons, ih]

/-- Writing on after faults leaves as much of the lines as there is room for. -/
theorem filled_writeEach (sink : LineSink) (moving : sink.device.chunk ≠ some 0)
    (readings : List Reading) :
    Device.Writer.Filled sink.device (sink.writeEach readings).2.device
      (readings.flatMap Reading.line) := by
  induction readings generalizing sink with
  | nil => exact .nil sink.device
  | cons r rest ih =>
    have first := (written_write moving r).1
    rw [writeEach_cons, List.flatMap_cons]
    exact first.append (ih (sink.write r).2 (first.chunk ▸ moving))

theorem balanced_writeEach (sink : LineSink) (moving : sink.device.chunk ≠ some 0)
    (balanced : sink.Balanced) (readings : List Reading) : (sink.writeEach readings).2.Balanced := by
  induction readings generalizing sink with
  | nil => exact balanced
  | cons r rest ih =>
    have first := (written_write moving r).1
    rw [writeEach_cons]
    exact ih (sink.write r).2 (first.chunk ▸ moving) (balanced_write moving r balanced)

theorem lines_writeEach (sink : LineSink) (moving : sink.device.chunk ≠ some 0)
    (readings : List Reading) :
    (sink.writeEach readings).2.lines =
      sink.lines + ((sink.writeEach readings).1.map Progress.result).countP Except.isOk := by
  induction readings generalizing sink with
  | nil => rfl
  | cons r rest ih =>
    have first := (written_write moving r).1
    have lines := lines_write moving r
    rw [writeEach_cons, List.map_cons, List.countP_cons]
    have later := ih (sink.write r).2 (first.chunk ▸ moving)
    rw [lines] at later
    exact later.trans (by rw [Nat.add_assoc, Nat.add_comm (ite _ _ _)]; rfl)

/-- The sink that is given a reading has been given those before it, and what it gives back is noted
in that place. -/
theorem writeEach_getElem (sink : LineSink) {index : Nat} (listed : index < readings.length) :
    let before := (sink.writeEach (readings.take index)).2
    (sink.writeEach (readings.take (index + 1))).2 = (before.write readings[index]).2 ∧
      ((sink.writeEach readings).1.map Progress.result)[index]? =
        some (before.write readings[index]).1 := by
  intro before
  constructor
  · rw [List.take_succ_eq_append_getElem listed, writeEach_append]
    rfl
  · have first : (sink.writeEach (readings.take index)).1.length = index := by
      rw [length_writeEach, List.length_take, Nat.min_eq_left (Nat.le_of_lt listed)]
    have split : readings = readings.take index ++ readings[index] :: readings.drop (index + 1) := by
      rw [List.getElem_cons_drop, List.take_append_drop]
    rw [congrArg sink.writeEach split, writeEach_append]
    dsimp only
    rw [writeEach_cons, List.getElem?_map, List.getElem?_append_right (Nat.le_of_eq first), first,
      Nat.sub_self]
    rfl

end Run

/-- What a device holds of some readings is as many bytes of their lines as it can take. It is
flushed once after each line that it holds to the end, and never after a line that was cut. A write
succeeds if its line is held to the end and the flush after it does not fail, and only then; the
sink counts the writes that succeed. The line ends on the device are as many as the lines that count
and the flushes that have failed. -/
theorem lines_accounted_for (device : Device.Writer)
    (fresh : device.accepted = #[] ∧ device.flushes = 0) (moving : device.chunk ≠ some 0)
    (given : List Reading) :
    let start : LineSink := { device }
    let after (count : Nat) := (start.writeEach (given.take count)).2
    let results := (start.writeEach given).1.map Progress.result
    let last := (start.writeEach given).2
    let text := given.flatMap Reading.line
    let stored := device.capacity.elim text text.take
    last.content = stored ∧
      (∀ index < given.length,
        let whole := (given.take (index + 1)).flatMap Reading.line <+: stored
        (after (index + 1)).device.flushes =
            (after index).device.flushes + (if whole then 1 else 0) ∧
          (results[index]? = some (.ok ()) ↔
            whole ∧ (after (index + 1)).device.flushes ∉ device.failingFlushes)) ∧
      last.lines = results.countP Except.isOk ∧
      stored.count lineEnd = last.lines + last.device.failedFlushes := by
  intro start after results last text stored
  have room : text.take (device.room text.length) = stored := device.take_room_of_fresh fresh.1 text
  have filled : Device.Writer.Filled device last.device text := filled_writeEach start moving given
  have content : last.content = stored := by
    rw [LineSink.content, filled.accepted, fresh.1, room]
    rfl
  refine ⟨content, ?_, ?_, ?_⟩
  · intro index listed whole
    have before : Device.Writer.Filled device (after index).device _ :=
      filled_writeEach start moving (given.take index)
    have movingOn : (after index).device.chunk ≠ some 0 := before.chunk ▸ moving
    obtain ⟨step, noted⟩ := start.writeEach_getElem listed
    obtain ⟨flushes, succeeds⟩ := flushed_write movingOn given[index]
    have fits : (after index).device.room given[index].line.length = given[index].line.length ↔
        whole := by
      have comes : (given.take (index + 1)).flatMap Reading.line <+: text :=
        (List.take_prefix _ given).flatMap _
      unfold whole
      rw [← room, ← device.fits_iff_prefix comes, List.take_succ_eq_append_getElem listed,
        List.flatMap_append, List.flatMap_singleton, before.fits_append_iff]
      exact ⟨fun fits => ⟨before.fits_of_later (length_line_pos _) fits, fits⟩, And.right⟩
    rw [noted, Option.some_inj, show after (index + 1) = _ from step, succeeds,
      before.failingFlushes, fits, flushes]
    exact ⟨by simp only [fits], Iff.rfl⟩
  · have lines := lines_writeEach start moving given
    rw [Nat.zero_add] at lines
    exact lines
  · have balanced : start.Balanced := by
      rw [Balanced, LineSink.content, fresh.1, Device.Writer.failedFlushes, fresh.2]
      rfl
    have : last.Balanced := balanced_writeEach start moving balanced given
    rw [← content]
    exact this

/-- Three readings on a device that takes seven bytes at once, is interrupted twice and has no room
for the last line end. The first flush fails. -/
theorem lines_accounted_for_cut :
    let device : Device.Writer :=
      { capacity := some 28, chunk := some 7, interruptions := 2, failingFlushes := [1] }
    let given : List Reading := [⟨1, ⟨0x4035800000000000⟩, 5⟩, ⟨2, ⟨0⟩, 1⟩, ⟨3, ⟨0⟩, 44⟩]
    let start : LineSink := { device }
    let results := (start.writeEach given).1.map Progress.result
    let last := (start.writeEach given).2
    let text := given.flatMap Reading.line
    ((device.accepted = #[] ∧ device.flushes = 0) ∧ device.chunk ≠ some 0) ∧
      (last.content = text.take 28 ∧ text.length = 29) ∧
      last.lines = results.countP Except.isOk ∧
      (text.take 28).count lineEnd = last.lines + last.device.failedFlushes ∧
      last.lines = 1 ∧ last.device.failedFlushes = 1 := by
  intro device given start results last text
  have moving : device.chunk ≠ some 0 := by decide
  have accounted := lines_accounted_for device ⟨rfl, rfl⟩ moving given
  obtain ⟨content, _, lines, ends⟩ := accounted
  have stored : device.capacity.elim text text.take = text.take 28 :=
    Option.elim_some _ _ 28
  have two : (text.take 28).count lineEnd = 2 := by decide +kernel
  have counted : last.lines = 1 := by decide +kernel
  rw [stored] at content ends
  refine ⟨⟨⟨rfl, rfl⟩, moving⟩, ⟨content, by decide +kernel⟩, lines, ends, counted, ?_⟩
  rw [two, show _ = 1 from counted] at ends
  exact (Nat.add_left_cancel ends).symm

end LineSink

end SensorRelay
