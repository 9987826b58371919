import SensorRelay.Proofs.Reading.Stream

/-! # Reading whatever way the bytes come

While its source has whole records left, each call of a reader gives the next of them
(`RecordReader.midway`). The call after that shows how the source ends, and later ones find the
reader at its end and leave it as it is. The offset goes up with each reading, and only then
(`RecordReader.offset_after`).
-/

namespace SensorRelay.RecordReader

open Device Record

/-- The reader after some calls. -/
def after (r : RecordReader) : Nat → RecordReader
  | 0 => r
  | calls + 1 => (r.after calls).next.2

/-- What a call gives, with the calls counted from zero. -/
def result (r : RecordReader) (call : Nat) : Option (Except ReadingFault Reading) :=
  (r.after call).next.1

/-- Is a result a reading? -/
def isReading : Option (Except ReadingFault Reading) → Bool
  | some (.ok _) => true
  | _ => false

variable {r : RecordReader} {content : List UInt8} {failure : Option String}

/-- A reader at its end gives nothing, and stays as it is. -/
theorem next_of_ended (ended : r.ended = true) : r.next = (none, r) := if_pos ended

/-- Before each whole record the reader is going on, and its source gives the bytes from there. -/
theorem midway (going : r.ended = false) (gives : r.source.Gives content failure) {calls : Nat}
    (whole : size * calls ≤ content.length) :
    (r.after calls).ended = false ∧ (r.after calls).offset = r.offset + size * calls ∧
      (r.after calls).source.Gives (content.drop (size * calls)) failure := by
  induction calls with
  | zero => exact ⟨going, rfl, gives⟩
  | succ calls ih =>
    rw [Nat.mul_succ] at whole
    obtain ⟨still, offset, rest⟩ := ih (by omega)
    have long : size ≤ (content.drop (size * calls)).length := by
      rw [List.length_drop]
      omega
    obtain ⟨source, given, later⟩ := next_of_gives_le still rest long
    rw [after, given, Nat.mul_succ]
    refine ⟨still, ?_, ?_⟩
    · rw [← Nat.add_assoc, ← offset]
    · rwa [List.drop_drop] at later

/-- What is left after the last whole record is a fault, unless it is nothing. -/
theorem closing_of_ends (offset : Nat) (content : List UInt8) :
    closing offset (content.drop (size * (content.length / size))) none =
      if content.length % size = 0 then none
      else some (.error (.truncated offset (content.length % size) size)) := by
  have left : (content.drop (size * (content.length / size))).length = content.length % size := by
    rw [List.length_drop, Nat.mod_eq_sub]
  rw [closing, remainder, ← left]
  split
  · next nothing => rw [if_pos (List.length_eq_zero_iff.mpr nothing), List.head?_nil]
  · next some_ => rw [if_neg (mt List.length_eq_zero_iff.mp some_), List.head?_cons]

/-- The call after the last whole record brings the reader to its end. -/
theorem closes (going : r.ended = false) (gives : r.source.Gives content failure) :
    let whole := content.length / size
    r.result whole = closing (r.offset + size * whole) (content.drop (size * whole)) failure ∧
      (r.after (whole + 1)).ended = true := by
  have whole : size * (content.length / size) ≤ content.length := Nat.mul_div_le _ _
  obtain ⟨still, offset, rest⟩ := midway going gives whole
  have short : (content.drop (size * (content.length / size))).length < size := by
    rw [List.length_drop, ← Nat.mod_eq_sub]
    exact Nat.mod_lt _ (by decide)
  obtain ⟨source, given⟩ := next_of_gives_lt still rest short
  dsimp only
  rw [result, after, given, offset]
  exact ⟨rfl, rfl⟩

section All

private theorem replay_zero (calls : Nat) (r : RecordReader) : replay calls 0 r = [] := by
  cases calls <;> rfl

/-- Enough calls give the readings of all whole records and what comes after them. -/
private theorem filterMap_replay {calls : Nat} (going : r.ended = false)
    (gives : r.source.Gives content failure) (enough : content.length / size + 1 < calls) :
    (replay calls 1 r).filterMap Prod.fst =
      (readings content).map .ok ++
        (closing (r.offset + size * (content.length / size))
          (content.drop (size * (content.length / size))) failure).toList := by
  induction calls generalizing r content with
  | zero => exact absurd enough (Nat.not_lt_zero _)
  | succ calls ih =>
    obtain short | long := Nat.lt_or_ge content.length size
    · obtain ⟨source, given⟩ := next_of_gives_lt going gives short
      rw [readings_of_lt short, Nat.div_eq_of_lt short, Nat.mul_zero, List.drop_zero, Nat.add_zero,
        List.map_nil, List.nil_append, replay, given]
      obtain ⟨calls, rfl⟩ := Nat.exists_eq_add_one.mpr
        (Nat.lt_of_le_of_lt (Nat.zero_le _) (Nat.lt_of_succ_lt_succ enough))
      cases closing r.offset content failure with
      | none => rfl
      | some last =>
        have atEnd : next { r with source, ended := true } =
          (none, { r with source, ended := true }) := next_of_ended rfl
        simp [replay, atEnd, replay_zero]
    · obtain ⟨source, given, later⟩ := next_of_gives_le going gives long
      have fewer : (content.drop size).length / size + 1 = content.length / size := by
        rw [List.length_drop, Nat.div_eq_sub_div (by decide) long]
      rw [← fewer] at enough
      have rest := ih (r := { r with source, offset := r.offset + size }) going later
        (Nat.lt_of_succ_lt_succ enough)
      rw [replay, given, readings_of_le long, ← fewer]
      simp only [List.filterMap_cons, rest, List.map_cons, List.cons_append]
      rw [Nat.mul_succ, Nat.add_comm (size * _) size, List.drop_drop, Nat.add_assoc]

private theorem length_delivered_le (deliveries : List Delivery) (maxRead : Option Nat) :
    (delivered deliveries).length ≤ available ⟨deliveries, maxRead⟩ := by
  induction deliveries with
  | nil => exact Nat.le_refl _
  | cons delivery rest ih =>
    simp only [available] at ih ⊢
    rw [List.map_cons, List.sum_cons]
    cases delivery with
    | interruption => exact Nat.le_trans ih (Nat.le_add_left _ _)
    | failure text => exact Nat.zero_le _
    | bytes piece =>
      cases piece with
      | nil => exact Nat.zero_le _
      | cons byte more =>
        rw [delivered, List.length_append]
        exact Nat.add_le_add_left ih _

/-- A fresh reader gives the readings of all whole records and what comes after them. -/
theorem toList_of_gives {source : Source} (gives : source.Gives content failure) :
    toList { source } = (readings content).map .ok ++
      (closing (size * (content.length / size)) (content.drop (size * (content.length / size)))
        failure).toList := by
  have most : content.length / size ≤ available source / size :=
    Nat.div_le_div_right (gives.content ▸ length_delivered_le source.deliveries source.maxRead)
  rw [toList, filterMap_replay rfl gives (Nat.add_lt_add_of_le_of_lt most (by decide)),
    Nat.zero_add]

end All

end SensorRelay.RecordReader
