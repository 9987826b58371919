import SensorRelay.Device.Writer
import Mathlib.Tactic.Common

/-! # Writing everything

A write that has been completed has put all of its content after what the device held before. A
device without a limit, which takes something each time, completes every write, however small the
pieces are that it takes and however often it is interrupted. A device with a limit takes as much of
the content as there is room for (`accepted_writeAll`), and completes the write if that is all of it
(`writeAll_eq_ok_iff`).
-/

namespace SensorRelay.Device.Writer

/-- No write to the device fails, and no flush from here on. -/
structure Reliable (w : Writer) : Prop where
  unlimited : w.capacity = none
  moving : w.chunk ≠ some 0
  flushes : ∀ n ∈ w.failingFlushes, n ≤ w.flushes

/-- The device after some writes: it may hold more, and have been interrupted. -/
structure After (w next : Writer) : Prop where
  capacity : next.capacity = w.capacity
  chunk : next.chunk = w.chunk
  failingFlushes : next.failingFlushes = w.failingFlushes
  flushes : next.flushes = w.flushes
  interruptions : next.interruptions ≤ w.interruptions

namespace After

variable {first second third : Writer}

theorem refl (w : Writer) : After w w := ⟨rfl, rfl, rfl, rfl, Nat.le_refl _⟩

theorem trans (before : After first second) (after : After second third) : After first third where
  capacity := after.capacity.trans before.capacity
  chunk := after.chunk.trans before.chunk
  failingFlushes := after.failingFlushes.trans before.failingFlushes
  flushes := after.flushes.trans before.flushes
  interruptions := Nat.le_trans after.interruptions before.interruptions

theorem reliable (after : After first second) (reliable : first.Reliable) : second.Reliable where
  unlimited := after.capacity.trans reliable.unlimited
  moving := after.chunk ▸ reliable.moving
  flushes := after.failingFlushes ▸ after.flushes ▸ reliable.flushes

end After

variable {w next : Writer} {content : List UInt8}

theorem after_write {outcome : WriteOutcome} (written : w.write content = (outcome, next)) :
    After w next := by
  obtain rfl : (w.write content).2 = next := congrArg Prod.snd written
  unfold write
  split
  · exact ⟨rfl, rfl, rfl, rfl, Nat.sub_le _ 1⟩
  · dsimp only
    split <;> exact ⟨rfl, rfl, rfl, rfl, Nat.le_refl _⟩

theorem after_writeAll (w : Writer) (content : List UInt8) : After w (w.writeAll content).2 := by
  fun_induction writeAll w content with
  | case1 w content nothing => exact .refl w
  | case2 w content something text next failed => exact after_write failed
  | case3 w content something next interrupted _ ih =>
    exact (after_write interrupted).trans ih
  | case4 w content something next took => exact after_write took
  | case5 w content something amount next took _ moved ih =>
    exact (after_write took).trans ih

theorem accepted_of_took {amount : Nat} (took : w.write content = (.took amount, next)) :
    next.accepted.toList = w.accepted.toList ++ content.take amount := by
  unfold write at took
  split at took
  · simp at took
  · dsimp only at took
    split at took
    · simp at took
    · rw [Prod.mk.injEq, WriteOutcome.took.injEq] at took
      obtain ⟨rfl, rfl⟩ := took
      simp

theorem accepted_of_interrupted (interrupted : w.write content = (.interrupted, next)) :
    next.accepted = w.accepted := by
  unfold write at interrupted
  split at interrupted
  · rw [Prod.mk.injEq] at interrupted
    rw [← interrupted.2]
  · dsimp only at interrupted
    split at interrupted <;> simp at interrupted

/-- A write that has been completed has put its content after what was there. -/
theorem accepted_of_writeAll (completed : (w.writeAll content).1 = .ok ()) :
    (w.writeAll content).2.accepted.toList = w.accepted.toList ++ content := by
  fun_induction writeAll w content with
  | case1 w content nothing => rw [List.length_eq_zero_iff.mp nothing, List.append_nil]
  | case2 => cases completed
  | case3 w content something next interrupted _ ih =>
    rw [ih completed, accepted_of_interrupted interrupted]
  | case4 => cases completed
  | case5 w content something amount next took _ moved ih =>
    rw [ih completed, accepted_of_took took, List.append_assoc, List.take_append_drop]

/-- A flush fails if it is one of those that do. -/
theorem flush_eq_ok_iff : w.flush.1 = .ok () ↔ w.flushes + 1 ∉ w.failingFlushes := by
  simp [flush]

section Room

theorem room_le (w : Writer) (wanted : Nat) : w.room wanted ≤ wanted := by
  unfold room
  cases w.capacity with
  | none => exact Nat.le_refl _
  | some capacity => exact Nat.min_le_left _ _

theorem room_le_room_add (w : Writer) (wanted more : Nat) :
    w.room wanted ≤ w.room (wanted + more) := by
  unfold room
  cases w.capacity with
  | none => exact Nat.le_add_right _ _
  | some capacity =>
    dsimp only
    omega

/-- Once there is too little room, asking for more does not make more of it. -/
theorem room_add_of_lt {w : Writer} {wanted : Nat} (full : w.room wanted < wanted) (more : Nat) :
    w.room (wanted + more) = w.room wanted := by
  unfold room at full ⊢
  cases capacity : w.capacity with
  | none =>
    rw [capacity] at full
    exact absurd full (Nat.lt_irrefl _)
  | some limit =>
    rw [capacity] at full
    dsimp only at full ⊢
    omega

/-- What has been taken is no longer room. -/
theorem room_of_grown (same : next.capacity = w.capacity) {amount : Nat}
    (grown : next.accepted.size = w.accepted.size + amount) (wanted : Nat) :
    next.room wanted = w.room (amount + wanted) - amount := by
  unfold room
  rw [same, grown]
  cases w.capacity with
  | none => exact (Nat.add_sub_cancel_left _ _).symm
  | some capacity =>
    dsimp only
    omega

/-- As much as there is room for has been taken, so the room left is what more would find. -/
theorem room_of_all (same : next.capacity = w.capacity) {amount : Nat}
    (grown : next.accepted.size = w.accepted.size + w.room amount) (wanted : Nat) :
    next.room wanted = w.room (amount + wanted) - w.room amount := by
  rw [room_of_grown same grown]
  unfold room
  cases w.capacity with
  | none => rfl
  | some capacity =>
    dsimp only
    omega

/-- On a device that has taken nothing yet, there is room for as much as it can take in all. -/
theorem take_room_of_fresh (fresh : w.accepted = #[]) (content : List UInt8) :
    content.take (w.room content.length) = w.capacity.elim content content.take := by
  unfold room
  cases w.capacity with
  | none => exact List.take_length
  | some capacity =>
    rw [fresh]
    change content.take (min content.length capacity) = content.take capacity
    rw [Nat.min_comm, ← List.take_eq_take_min]

/-- There is room for all of what comes first if it is among what there is room for. -/
theorem fits_iff_prefix (w : Writer) {first all : List UInt8} (comes : first <+: all) :
    w.room first.length = first.length ↔ first <+: all.take (w.room all.length) := by
  have within := comes.length_le
  rw [List.prefix_take_iff, and_iff_right comes]
  unfold room
  cases w.capacity with
  | none => simpa using within
  | some capacity =>
    dsimp only
    omega

/-- A write fails only on a full device, and leaves it as it is. -/
theorem room_of_failed {text : String} (failed : w.write content = (.failed text, next)) :
    w.room content.length = 0 ∧ next = w := by
  unfold write at failed
  split at failed
  · simp at failed
  · dsimp only at failed
    split at failed
    · next full =>
      rw [Prod.mk.injEq] at failed
      exact ⟨full.1, failed.2.symm⟩
    · simp at failed

/-- A write takes no more than there is room for, and nothing only if there is none. -/
theorem room_of_took {amount : Nat} (moving : w.chunk ≠ some 0) (something : content.length ≠ 0)
    (took : w.write content = (.took amount, next)) :
    amount ≤ w.room content.length ∧ (amount = 0 → w.room content.length = 0) := by
  unfold write at took
  split at took
  · simp at took
  · dsimp only at took
    split at took
    · simp at took
    · rw [Prod.mk.injEq, WriteOutcome.took.injEq] at took
      obtain ⟨rfl, _⟩ := took
      refine ⟨Nat.min_le_left _ _, fun nothing => ?_⟩
      cases chunk : w.chunk with
      | none =>
        rw [chunk, Option.getD_none] at nothing
        omega
      | some most =>
        have : most ≠ 0 := fun zero => moving (chunk.trans (congrArg some zero))
        rw [chunk, Option.getD_some] at nothing
        omega

private theorem room_of_interrupted (interrupted : w.write content = (.interrupted, next))
    (wanted : Nat) : next.room wanted = w.room wanted := by
  have same : next.accepted = w.accepted := accepted_of_interrupted interrupted
  have capacity := (after_write interrupted).capacity
  simp only [room, same, capacity]

/-- What has been taken fitted, and there is as much less room for the rest. -/
private theorem room_drop_of_took {amount : Nat} (moving : w.chunk ≠ some 0)
    (something : content.length ≠ 0) (took : w.write content = (.took amount, next)) :
    amount ≤ w.room content.length ∧
      next.room (content.drop amount).length = w.room content.length - amount := by
  have fits := (room_of_took moving something took).1
  have within : amount ≤ content.length := Nat.le_trans fits (w.room_le _)
  have grown : next.accepted.size = w.accepted.size + amount := by
    rw [← Array.length_toList, accepted_of_took took, List.length_append, List.length_take,
      Nat.min_eq_left within, Array.length_toList]
  have room := room_of_grown (after_write took).capacity grown (content.drop amount).length
  rw [List.length_drop, Nat.add_sub_cancel' within] at room
  rw [List.length_drop]
  exact ⟨fits, room⟩

/-- A device that takes something each time takes as much as there is room for. -/
theorem accepted_writeAll (moving : w.chunk ≠ some 0) (content : List UInt8) :
    (w.writeAll content).2.accepted.toList =
      w.accepted.toList ++ content.take (w.room content.length) := by
  fun_induction writeAll w content with
  | case1 w content nothing => simp [List.length_eq_zero_iff.mp nothing]
  | case2 w content something text next failed =>
    obtain ⟨full, rfl⟩ := room_of_failed failed
    simp [full]
  | case3 w content something next interrupted _ ih =>
    rw [ih ((after_write interrupted).chunk ▸ moving), accepted_of_interrupted interrupted,
      room_of_interrupted interrupted]
  | case4 w content something next took =>
    rw [accepted_of_took took, (room_of_took moving something took).2 rfl]
  | case5 w content something amount next took _ moved ih =>
    obtain ⟨fits, room⟩ := room_drop_of_took moving something took
    rw [ih ((after_write took).chunk ▸ moving), accepted_of_took took, room, List.append_assoc,
      ← List.take_add, Nat.add_sub_cancel' fits]

/-- A write is completed if there is room for all of its content, and only then. -/
theorem writeAll_eq_ok_iff (moving : w.chunk ≠ some 0) (content : List UInt8) :
    (w.writeAll content).1 = .ok () ↔ w.room content.length = content.length := by
  constructor
  · intro completed
    have all := accepted_of_writeAll completed
    rw [accepted_writeAll moving, List.append_cancel_left_eq] at all
    have length := congrArg List.length all
    rw [List.length_take] at length
    have := w.room_le content.length
    omega
  · intro fits
    fun_induction writeAll w content with
    | case1 => rfl
    | case2 w content something text next failed =>
      have full := (room_of_failed failed).1
      omega
    | case3 w content something next interrupted _ ih =>
      exact ih ((after_write interrupted).chunk ▸ moving)
        ((room_of_interrupted interrupted _).trans fits)
    | case4 w content something next took =>
      have full := (room_of_took moving something took).2 rfl
      omega
    | case5 w content something amount next took _ moved ih =>
      have room := (room_drop_of_took moving something took).2
      rw [fits, ← List.length_drop] at room
      exact ih ((after_write took).chunk ▸ moving) room

end Room

/-- What became of a device that was given some content, piece by piece: it holds as much of it as
there was room for. It may have been flushed. -/
structure Filled (w next : Writer) (content : List UInt8) : Prop where
  capacity : next.capacity = w.capacity
  chunk : next.chunk = w.chunk
  failingFlushes : next.failingFlushes = w.failingFlushes
  accepted : next.accepted.toList = w.accepted.toList ++ content.take (w.room content.length)

namespace Filled

variable {last : Writer} {more : List UInt8}

theorem nil (w : Writer) : Filled w w [] where
  capacity := rfl
  chunk := rfl
  failingFlushes := rfl
  accepted := by rw [List.take_nil, List.append_nil]

theorem writeAll (moving : w.chunk ≠ some 0) (content : List UInt8) :
    Filled w (w.writeAll content).2 content where
  capacity := (after_writeAll w content).capacity
  chunk := (after_writeAll w content).chunk
  failingFlushes := (after_writeAll w content).failingFlushes
  accepted := accepted_writeAll moving content

theorem flush (filled : Filled w next content) : Filled w next.flush.2 content :=
  ⟨filled.capacity, filled.chunk, filled.failingFlushes, filled.accepted⟩

theorem room (filled : Filled w next content) (wanted : Nat) :
    next.room wanted = w.room (content.length + wanted) - w.room content.length := by
  refine room_of_all filled.capacity ?_ wanted
  rw [← Array.length_toList, filled.accepted, List.length_append, List.length_take,
    Nat.min_eq_left (w.room_le _), Array.length_toList]

/-- A full device takes nothing of what comes later. -/
theorem full (filled : Filled w next content) (short : w.room content.length < content.length)
    (more : List UInt8) : Filled w next (content ++ more) where
  capacity := filled.capacity
  chunk := filled.chunk
  failingFlushes := filled.failingFlushes
  accepted := by
    rw [List.length_append, w.room_add_of_lt short,
      List.take_append_of_le_length (Nat.le_of_lt short)]
    exact filled.accepted

theorem append (first : Filled w next content) (second : Filled next last more) :
    Filled w last (content ++ more) where
  capacity := second.capacity.trans first.capacity
  chunk := second.chunk.trans first.chunk
  failingFlushes := second.failingFlushes.trans first.failingFlushes
  accepted := by
    have room := first.room more.length
    obtain short | fits := Nat.lt_or_eq_of_le (w.room_le content.length)
    · rw [w.room_add_of_lt short, Nat.sub_self] at room
      rw [second.accepted, room, List.take_zero, List.append_nil, (first.full short more).accepted]
    · have further := w.room_le_room_add content.length more.length
      rw [fits] at room further
      obtain ⟨left, same⟩ := Nat.exists_eq_add_of_le further
      rw [same, Nat.add_sub_cancel_left] at room
      rw [second.accepted, first.accepted, fits, room, List.length_append, same, List.take_length,
        List.take_length_add_append, List.append_assoc]

/-- There is room for all of two pieces if there is for the first, and for the second after it. -/
theorem fits_append_iff (filled : Filled w next content) (more : List UInt8) :
    w.room (content ++ more).length = (content ++ more).length ↔
      w.room content.length = content.length ∧ next.room more.length = more.length := by
  have room := filled.room more.length
  have grows := w.room_le_room_add content.length more.length
  rw [List.length_append, room]
  obtain short | fits := Nat.lt_or_eq_of_le (w.room_le content.length)
  · have same := w.room_add_of_lt short more.length
    omega
  · omega

/-- There is room for more only if there was for what came before. -/
theorem fits_of_later (filled : Filled w next content) {wanted : Nat} (asks : 0 < wanted)
    (fits : next.room wanted = wanted) : w.room content.length = content.length := by
  have room := filled.room wanted
  obtain short | fits := Nat.lt_or_eq_of_le (w.room_le content.length)
  · rw [w.room_add_of_lt short, Nat.sub_self] at room
    omega
  · exact fits

end Filled

/-- One write to a reliable device is interrupted, or takes something. -/
theorem Reliable.write (reliable : w.Reliable) (something : content.length ≠ 0) :
    (∃ next, w.write content = (.interrupted, next)) ∨
      ∃ amount next, w.write content = (.took amount, next) ∧ amount ≠ 0 := by
  unfold Writer.write
  split
  · exact .inl ⟨_, rfl⟩
  · have room : w.room content.length = content.length := by
      rw [Writer.room, reliable.unlimited]
    have moved : min content.length (w.chunk.getD content.length) ≠ 0 := by
      cases chunk : w.chunk with
      | none => simpa using something
      | some size =>
        have := reliable.moving
        simp only [chunk, ne_eq, Option.some.injEq] at this
        simp only [Option.getD_some]
        omega
    dsimp only
    rw [room, if_neg fun full => something full.1]
    exact .inr ⟨_, _, rfl, moved⟩

theorem Reliable.writeAll (reliable : w.Reliable) (content : List UInt8) :
    (w.writeAll content).1 = .ok () := by
  fun_induction Writer.writeAll w content with
  | case1 => rfl
  | case2 w content something text next failed =>
    obtain ⟨_, interrupted⟩ | ⟨_, _, took, _⟩ := reliable.write something
    · rw [interrupted] at failed
      cases failed
    · rw [took] at failed
      cases failed
  | case3 w content something next interrupted _ ih =>
    exact ih ((after_write interrupted).reliable reliable)
  | case4 w content something next took =>
    obtain ⟨_, interrupted⟩ | ⟨_, _, took', moved⟩ := reliable.write something
    · rw [interrupted] at took
      cases took
    · rw [took', Prod.mk.injEq, WriteOutcome.took.injEq] at took
      exact absurd took.1 moved
  | case5 w content something amount next took _ moved ih =>
    exact ih ((after_write took).reliable reliable)

theorem Reliable.flush (reliable : w.Reliable) : w.flush.1 = .ok () ∧ w.flush.2.Reliable := by
  have calm : w.flushes + 1 ∉ w.failingFlushes := fun listed =>
    absurd (reliable.flushes _ listed) (by omega)
  refine ⟨flush_eq_ok_iff.mpr calm, reliable.unlimited, reliable.moving, fun n listed => ?_⟩
  exact Nat.le_succ_of_le (reliable.flushes n listed)

end SensorRelay.Device.Writer
