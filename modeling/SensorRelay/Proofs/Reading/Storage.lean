import SensorRelay.Proofs.Device.Writer
import SensorRelay.Proofs.Reading.Delivery
import SensorRelay.Proofs.Reading.Record
import SensorRelay.Reading.Writer

/-! # Records on a device that fails

Whether a record writer stops at the first fault or goes on, its device holds as much of the records
as there was room for, and the writer has counted those that are whole (`RecordWriter.Stored`). They
are read back as they were written; if the device was full in the middle of a record, what it holds
of that is a fault at the end.
-/

namespace SensorRelay.RecordWriter

open Record

/-- What became of a writer that was given some content, record by record. -/
structure Stored (w next : RecordWriter) (content : List UInt8) : Prop where
  after : Device.Writer.After w.device next.device
  accepted : next.device.accepted.toList =
    w.device.accepted.toList ++ content.take (w.device.room content.length)
  written : next.written = w.written + w.device.room content.length / size

namespace Stored

variable {w next last : RecordWriter} {content more : List UInt8}

theorem nil (w : RecordWriter) : Stored w w [] where
  after := .refl _
  accepted := by rw [List.take_nil, List.append_nil]
  written := by
    rw [List.length_nil, Nat.eq_zero_of_le_zero (w.device.room_le 0), Nat.zero_div, Nat.add_zero]

theorem filled (stored : Stored w next content) :
    Device.Writer.Filled w.device next.device content where
  capacity := stored.after.capacity
  chunk := stored.after.chunk
  failingFlushes := stored.after.failingFlushes
  accepted := stored.accepted

/-- A full device takes nothing of what comes later. -/
theorem full (stored : Stored w next content)
    (short : w.device.room content.length < content.length) (more : List UInt8) :
    Stored w next (content ++ more) where
  after := stored.after
  accepted := (stored.filled.full short more).accepted
  written := by
    rw [List.length_append, w.device.room_add_of_lt short]
    exact stored.written

/-- What is stored after whole records is stored with them. -/
theorem append (first : Stored w next content) (whole : size ∣ content.length)
    (second : Stored next last more) : Stored w last (content ++ more) := by
  refine ⟨first.after.trans second.after, (first.filled.append second.filled).accepted, ?_⟩
  have room := first.filled.room more.length
  obtain short | fits := Nat.lt_or_eq_of_le (w.device.room_le content.length)
  · rw [w.device.room_add_of_lt short, Nat.sub_self] at room
    rw [second.written, room, Nat.zero_div, Nat.add_zero, (first.full short more).written]
  · have further := w.device.room_le_room_add content.length more.length
    rw [fits] at room further
    obtain ⟨left, same⟩ := Nat.exists_eq_add_of_le further
    rw [same, Nat.add_sub_cancel_left] at room
    obtain ⟨count, counted⟩ := whole
    rw [second.written, first.written, fits, room, List.length_append, same, counted,
      Nat.mul_add_div (by decide), Nat.mul_div_right _ (by decide), Nat.add_assoc]

end Stored

variable {w : RecordWriter}

/-- A write counts when there is room for the whole record, and only then. -/
theorem stored_write (moving : w.device.chunk ≠ some 0) (r : Reading) :
    Stored w (w.write r).2 (encode r) ∧
      ((w.write r).1 = .ok () ↔ w.device.room size = size) := by
  obtain ⟨device, written⟩ := w
  have after := Device.Writer.after_writeAll device (encode r)
  have accepted := Device.Writer.accepted_writeAll moving (encode r)
  have completed := Device.Writer.writeAll_eq_ok_iff moving (encode r)
  have few := device.room_le size
  rw [length_encode] at completed
  unfold write
  dsimp only at moving ⊢
  split
  · next next result =>
    rw [result] at after accepted completed
    have fits : device.room size = size := completed.mp rfl
    refine ⟨⟨after, accepted, ?_⟩, by simp [fits]⟩
    rw [length_encode, fits]
    rfl
  · next text next result =>
    rw [result] at after accepted completed
    have full : device.room size ≠ size := fun fits => nomatch completed.mpr fits
    refine ⟨⟨after, accepted, ?_⟩, by simp [full]⟩
    rw [length_encode, Nat.div_eq_of_lt (Nat.lt_of_le_of_ne few full), Nat.add_zero]

private theorem dvd_length_encode (r : Reading) : size ∣ (encode r).length :=
  ⟨1, by rw [length_encode, Nat.mul_one]⟩

/-- Writing on after faults stores as much of the records as there is room for. -/
theorem stored_writeEach (moving : w.device.chunk ≠ some 0) (readings : List Reading) :
    Stored w (w.writeEach readings).2 (readings.flatMap encode) := by
  induction readings generalizing w with
  | nil => exact .nil w
  | cons r rest ih =>
    have first := (stored_write moving r).1
    rw [writeEach_cons, List.flatMap_cons]
    exact first.append (dvd_length_encode r) (ih (first.after.chunk ▸ moving))

/-- Stopping at the first fault stores no less, since there is no room left. -/
theorem stored_writeAll (moving : w.device.chunk ≠ some 0) (readings : List Reading) :
    Stored w (w.writeAll readings).2 (readings.flatMap encode) := by
  induction readings generalizing w with
  | nil => exact .nil w
  | cons r rest ih =>
    obtain ⟨first, completed⟩ := stored_write moving r
    rw [writeAll, List.flatMap_cons]
    split
    · next next result =>
      rw [result] at first
      exact first.append (dvd_length_encode r) (ih (first.after.chunk ▸ moving))
    · next fault next result =>
      rw [result] at first completed
      have full : w.device.room size ≠ size := fun fits => nomatch completed.mpr fits
      refine first.full ?_ _
      rw [length_encode]
      exact Nat.lt_of_le_of_ne (w.device.room_le size) full

/-- What is stored of records from the start. -/
private theorem Stored.ofFresh {next : RecordWriter} {device : Device.Writer}
    (fresh : device.accepted = #[]) {content : List UInt8}
    (stored : Stored { device } next content) :
    next.device.accepted.toList = device.capacity.elim content content.take ∧
      next.written = (device.capacity.elim content content.take).length / size := by
  have length : (content.take (device.room content.length)).length = device.room content.length := by
    rw [List.length_take, Nat.min_eq_left (device.room_le _)]
  rw [← Device.Writer.take_room_of_fresh fresh, length]
  constructor
  · rw [stored.accepted, fresh]
    rfl
  · rw [stored.written]
    exact Nat.zero_add _

/-- Bytes are read as the readings of their whole records, and a fault if more is left. -/
private theorem toList_of_bytes {source : Device.Source} {content : List UInt8}
    (gives : source.Gives content none) :
    RecordReader.toList { source } = (readings content).map .ok ++
      if content.length % size = 0 then []
      else [.error (.truncated (size * (content.length / size)) (content.length % size) size)] := by
  rw [RecordReader.toList_of_gives gives, RecordReader.closing_of_ends]
  split <;> rfl

/-- What a device holds of some readings is as many bytes of their records as it can take, whether
the writer stopped at the first fault or went on, and the writer has counted the whole records among
them. These are read back as the readings that they were, pattern of the value and all, however the
bytes come, with a fault at the end if the last record was cut. Conversely, the records of the
readings that some bytes are read as are all whole records of these bytes. -/
theorem records_restored (device : Device.Writer) (fresh : device.accepted = #[])
    (moving : device.chunk ≠ some 0) (given : List Reading) :
    let start : RecordWriter := { device }
    let stopping := (start.writeAll given).2
    let goingOn := (start.writeEach given).2
    let records := given.flatMap encode
    let stored := device.capacity.elim records records.take
    let whole := stored.length / size
    (stopping.device.accepted.toList = stored ∧ goingOn.device.accepted.toList = stored) ∧
      (stopping.written = whole ∧ goingOn.written = whole) ∧
      (∀ source : Device.Source, source.Gives stored none →
        RecordReader.toList { source } = (given.take whole).map .ok ++
          if stored.length % size = 0 then []
          else [.error (.truncated (size * whole) (stored.length % size) size)]) ∧
      ∀ (content : List UInt8) (source : Device.Source), source.Gives content none →
        ((RecordReader.toList { source }).filterMap Except.toOption).flatMap encode =
          content.take (size * (content.length / size)) := by
  intro start stopping goingOn records stored whole
  have stopped := (stored_writeAll (w := start) moving given).ofFresh fresh
  have wentOn := (stored_writeEach (w := start) moving given).ofFresh fresh
  refine ⟨⟨stopped.1, wentOn.1⟩, ⟨stopped.2, wentOn.2⟩, ?_, ?_⟩
  · intro source gives
    have first : stored = records.take stored.length := by
      unfold stored
      cases device.capacity with
      | none => exact List.take_length.symm
      | some capacity =>
        change records.take capacity = records.take (records.take capacity).length
        rw [List.length_take, ← List.take_eq_take_min]
    have restored : readings stored = given.take whole := by
      rw [first]
      exact readings_take_flatMap_encode given stored.length
    rw [toList_of_bytes gives, restored]
  · intro content source gives
    have decoded : (RecordReader.toList { source }).filterMap Except.toOption = readings content := by
      rw [toList_of_bytes gives, List.filterMap_append, List.filterMap_map]
      split <;> simp [Function.comp_def, Except.toOption]
    rw [decoded, flatMap_encode_readings]

/-- A NaN with a payload and a measurement of which seven bytes fit. The device is interrupted
twice, takes four bytes at once, and nothing once it is full. -/
theorem records_restored_up_to_capacity :
    let device : Device.Writer :=
      { capacity := some 25, chunk := some 4, interruptions := 2, silentWhenFull := true }
    let start : RecordWriter := { device }
    let given : List Reading :=
      [⟨129, ⟨0xfff0000000000001⟩, -5⟩, ⟨1, ⟨0x40313c6a7ef9db23⟩, 1699999999⟩]
    let stored := (start.writeEach given).2.device.accepted.toList
    (device.accepted = #[] ∧ device.chunk ≠ some 0) ∧
      (start.writeAll given).2.device.accepted.toList = stored ∧
      ((start.writeAll given).2.written = 1 ∧ (start.writeEach given).2.written = 1) ∧
      RecordReader.toList { source := .ofBytes stored } =
        [.ok ⟨129, ⟨0xfff0000000000001⟩, -5⟩, .error (.truncated 18 7 18)] := by
  intro device start given stored
  have moving : device.chunk ≠ some 0 := by decide
  obtain ⟨⟨stopping, goingOn⟩, ⟨stopped, wentOn⟩, back, _⟩ :=
    records_restored device rfl moving given
  have content : stored = (given.flatMap encode).take 25 := goingOn
  have length : ((given.flatMap encode).take 25).length = 25 := by decide
  refine ⟨⟨rfl, moving⟩, stopping.trans goingOn.symm, ⟨?_, ?_⟩, ?_⟩
  · exact stopped.trans (congrArg (· / size) length)
  · exact wentOn.trans (congrArg (· / size) length)
  · rw [content]
    exact (back _ (Device.Source.gives_ofBytes _)).trans (by decide)

end SensorRelay.RecordWriter
