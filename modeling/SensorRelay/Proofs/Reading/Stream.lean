import SensorRelay.Proofs.Device.Source
import SensorRelay.Reading.Reader

/-! # The stream of some bytes

Every eighteen bytes are a record, and bytes that are left at the end are a fault (`Record.stream`).
A reader gathers the bytes of a record from as many reads as it needs, so it gives this stream one
element after the other, however its source delivers the bytes (`RecordReader.next_of_gives_le` and
`RecordReader.next_of_gives_lt`). A source that only holds pieces goes on holding pieces, so more of
them may be added while it is read (`RecordReader.next_of_le` and `RecordReader.next_of_lt`).
-/

namespace SensorRelay

namespace Record

/-- The readings of all whole records. -/
def readings (content : List UInt8) : List Reading :=
  (List.range (content.length / size)).map fun n => decode ((content.drop (size * n)).take size)

/-- The fault of bytes that are no whole record, if there are any. -/
def remainder (offset : Nat) (content : List UInt8) : List (Except ReadingFault Reading) :=
  if content = [] then [] else [.error (.truncated offset content.length size)]

/-- All that bytes give from an offset on. -/
def stream (offset : Nat) (content : List UInt8) : List (Except ReadingFault Reading) :=
  (readings content).map .ok ++
    remainder (offset + size * (content.length / size))
      (content.drop (size * (content.length / size)))

/-- What comes after the last whole record: the bytes that are left, or a failure instead of them. -/
def closing (offset : Nat) (content : List UInt8) :
    Option String → Option (Except ReadingFault Reading)
  | some text => some (.error (.device text))
  | none => (remainder offset content).head?

theorem length_readings (content : List UInt8) :
    (readings content).length = content.length / size := by simp [readings]

theorem readings_of_lt {content : List UInt8} (short : content.length < size) :
    readings content = [] := by
  rw [readings, Nat.div_eq_of_lt short]
  rfl

theorem readings_of_le {content : List UInt8} (long : size ≤ content.length) :
    readings content = decode (content.take size) :: readings (content.drop size) := by
  have blocks : content.length / size = (content.drop size).length / size + 1 := by
    rw [List.length_drop, Nat.div_eq_sub_div (by decide) long]
  rw [readings, blocks, List.range_succ_eq_map, List.map_cons, List.map_map, readings]
  refine congrArg₂ List.cons rfl (List.map_congr_left fun n _ => ?_)
  rw [Function.comp_apply, List.drop_drop, Nat.mul_succ, Nat.add_comm (size * n)]

theorem stream_of_lt {content : List UInt8} (short : content.length < size) (offset : Nat) :
    stream offset content = remainder offset content := by
  rw [stream, readings_of_lt short, Nat.div_eq_of_lt short]
  rfl

theorem stream_of_le {content : List UInt8} (long : size ≤ content.length) (offset : Nat) :
    stream offset content =
      .ok (decode (content.take size)) :: stream (offset + size) (content.drop size) := by
  have blocks : content.length / size = (content.drop size).length / size + 1 := by
    rw [List.length_drop, Nat.div_eq_sub_div (by decide) long]
  rw [stream, stream, readings_of_le long, blocks, Nat.mul_succ, List.drop_drop]
  rw [Nat.add_comm (size * _) size, Nat.add_assoc]
  rfl

end Record

namespace RecordReader

open Device.Source Record

variable {failure : Option String}

section Gather

variable {source : Device.Source} {content block : List UInt8}

/-- Gathering takes what a record lacks, if the source gives as much. -/
theorem gather_of_le (gives : source.Gives content failure) (fits : block.length ≤ size)
    (long : size ≤ block.length + content.length) :
    ∃ rest, gather source block = (.ok (block ++ content.take (size - block.length)), rest) ∧
      rest.Gives (content.drop (size - block.length)) failure := by
  fun_induction gather source block generalizing content with
  | case1 source block full =>
    have lacks : size - block.length = 0 := by omega
    exact ⟨source, by simp [lacks], by simpa [lacks] using gives⟩
  | case2 source block short text rest given =>
    have left := gives.read (size - block.length) (by omega)
    rw [given] at left
    obtain ⟨rfl, _⟩ := left
    simp only [List.length_nil] at long
    omega
  | case3 source block short rest given _ ih =>
    have left := gives.read (size - block.length) (by omega)
    rw [given] at left
    exact ih left fits long
  | case4 source block short rest given =>
    have left := gives.read (size - block.length) (by omega)
    rw [given] at left
    obtain ⟨rfl, _⟩ := left
    simp only [List.length_nil] at long
    omega
  | case5 source block short byte more rest given _ _ ih =>
    have left := gives.read (size - block.length) (by omega)
    rw [given] at left
    obtain ⟨few, later, rfl, still⟩ := left
    have longer : (block ++ byte :: more).length = block.length + (byte :: more).length :=
      List.length_append
    have lacks : size - block.length =
        (byte :: more).length + (size - (block ++ byte :: more).length) := by omega
    rw [List.length_append] at long
    obtain ⟨last, gathered, held⟩ := ih still (by omega) (by omega)
    refine ⟨last, ?_, ?_⟩
    · rw [gathered, lacks, List.take_length_add_append, List.append_assoc]
    · rwa [lacks, List.drop_length_add_append]

/-- Gathering ends as the source does, if that gives less than a record lacks. -/
theorem gather_of_lt (gives : source.Gives content failure)
    (short : block.length + content.length < size) :
    ∃ rest, gather source block = (failure.elim (.ok (block ++ content)) .error, rest) := by
  fun_induction gather source block generalizing content with
  | case1 => omega
  | case2 source block _ text rest given =>
    have left := gives.read (size - block.length) (by omega)
    rw [given] at left
    obtain ⟨rfl, rfl⟩ := left
    exact ⟨rest, rfl⟩
  | case3 source block _ rest given _ ih =>
    have left := gives.read (size - block.length) (by omega)
    rw [given] at left
    exact ih left short
  | case4 source block _ rest given =>
    have left := gives.read (size - block.length) (by omega)
    rw [given] at left
    obtain ⟨rfl, rfl⟩ := left
    exact ⟨rest, by simp⟩
  | case5 source block _ byte more rest given _ _ ih =>
    have left := gives.read (size - block.length) (by omega)
    rw [given] at left
    obtain ⟨_, later, rfl, still⟩ := left
    obtain ⟨last, gathered⟩ := ih still (by simp only [List.length_append] at short ⊢; omega)
    exact ⟨last, by rw [gathered, List.append_assoc]⟩

/-- What every read keeps, gathering keeps. -/
theorem gather_keeps {kept : Device.Source → Prop}
    (read : ∀ source wanted, kept source → kept (source.read wanted).2) (block : List UInt8)
    (before : kept source) : kept (gather source block).2 := by
  fun_induction gather source block with
  | case1 => exact before
  | case2 source block _ text rest given =>
    simpa only [given] using read source (size - block.length) before
  | case3 source block _ rest given _ ih =>
    exact ih (by simpa only [given] using read source (size - block.length) before)
  | case4 source block _ rest given =>
    simpa only [given] using read source (size - block.length) before
  | case5 source block _ byte more rest given _ _ ih =>
    exact ih (by simpa only [given] using read source (size - block.length) before)

end Gather

section Next

variable {r : RecordReader} {content : List UInt8}

/-- A reader whose source gives a whole record gives its reading. -/
theorem next_of_gives_le (going : r.ended = false) (gives : r.source.Gives content failure)
    (long : size ≤ content.length) :
    ∃ source, r.next = (some (.ok (decode (content.take size))),
      { r with source, offset := r.offset + size }) ∧
      source.Gives (content.drop size) failure := by
  obtain ⟨rest, gathered, later⟩ : ∃ rest, gather r.source [] = (.ok (content.take size), rest) ∧
      rest.Gives (content.drop size) failure :=
    gather_of_le gives (Nat.zero_le _) (by simpa using long)
  have length : (content.take size).length = size := by
    rw [List.length_take, Nat.min_eq_left long]
  refine ⟨rest, ?_, later⟩
  rw [next, if_neg (by simp [going]), gathered]
  split
  · next failed => cases failed
  · next atEnd =>
    simp only [Prod.mk.injEq, Except.ok.injEq] at atEnd
    rw [atEnd.1] at length
    cases length
  · next block _ _ same =>
    simp only [Prod.mk.injEq, Except.ok.injEq] at same
    obtain ⟨rfl, rfl⟩ := same
    rw [if_pos length]

/-- A reader whose source gives less gives what is left, or the failure of its source, and has come
to its end. -/
theorem next_of_gives_lt (going : r.ended = false) (gives : r.source.Gives content failure)
    (short : content.length < size) :
    ∃ source, r.next = (closing r.offset content failure, { r with source, ended := true }) := by
  obtain ⟨rest, gathered⟩ : ∃ rest, gather r.source [] = (failure.elim (.ok content) .error, rest) :=
    gather_of_lt gives (by simpa using short)
  refine ⟨rest, ?_⟩
  rw [next, if_neg (by simp [going]), gathered]
  cases failure with
  | some text => rfl
  | none =>
    cases content with
    | nil => rfl
    | cons byte more =>
      have short : ¬(byte :: more).length = size := by omega
      simp only [Option.elim_none, if_neg short]
      rfl

/-- What every read keeps of a source, a call keeps. -/
theorem next_keeps {kept : Device.Source → Prop}
    (read : ∀ source wanted, kept source → kept (source.read wanted).2)
    (before : kept r.source) : kept r.next.2.source := by
  have gathered := gather_keeps read [] before
  unfold next
  split
  · exact before
  · split
    · next given => rwa [given] at gathered
    · next given => rwa [given] at gathered
    · next given =>
      rw [given] at gathered
      split <;> exact gathered

/-- A reader whose source holds a whole record gives its reading. -/
theorem next_of_le (going : r.ended = false) (holds : r.source.Holds content)
    (long : size ≤ content.length) :
    ∃ source, r.next = (some (.ok (decode (content.take size))),
      { r with source, offset := r.offset + size }) ∧ source.Holds (content.drop size) := by
  obtain ⟨onlyPieces, gives⟩ := holds_iff.mp holds
  obtain ⟨source, given, later⟩ := next_of_gives_le going gives long
  have still : r.next.2.source.OnlyPieces :=
    next_keeps (fun _ wanted held => held.read wanted) onlyPieces
  rw [given] at still
  exact ⟨source, given, holds_iff.mpr ⟨still, later⟩⟩

/-- A reader whose source holds less gives what is left as a fault, and has come to its end. -/
theorem next_of_lt (going : r.ended = false) (holds : r.source.Holds content)
    (short : content.length < size) :
    ∃ source, r.next = ((remainder r.offset content).head?, { r with source, ended := true }) :=
  next_of_gives_lt going (holds_iff.mp holds).2 short

end Next

end RecordReader

end SensorRelay
