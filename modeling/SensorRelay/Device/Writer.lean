/-! # Byte writers

A writer may take fewer bytes than it is given, may be interrupted, and may be full; flushing it
may fail. Writing all of something tries again until everything is taken or the writer refuses.
-/

namespace SensorRelay.Device

structure Writer where
  accepted : Array UInt8 := #[]
  /-- The bytes it can take in all. -/
  capacity : Option Nat := none
  /-- A full device takes nothing without complaint, or fails. -/
  silentWhenFull : Bool := false
  /-- The most that it takes at once. -/
  chunk : Option Nat := none
  /-- How many of the next writes are interrupted. -/
  interruptions : Nat := 0
  /-- The flushes that fail, counted from one. -/
  failingFlushes : List Nat := []
  /-- The flushes so far. -/
  flushes : Nat := 0
deriving DecidableEq, Repr

/-- What one write gives: how many bytes were taken, or why none were. -/
inductive WriteOutcome
  | took (amount : Nat)
  | interrupted
  | failed (text : String)
deriving DecidableEq, Repr

namespace Writer

def fullText : String := "device full"

def refusedText : String := "failed to write whole buffer"

def flushText : String := "flush refused"

def room (w : Writer) (wanted : Nat) : Nat :=
  match w.capacity with
  | some capacity => min wanted (capacity - w.accepted.size)
  | none => wanted

def write (w : Writer) (content : List UInt8) : WriteOutcome × Writer :=
  if 0 < w.interruptions then
    (.interrupted, { w with interruptions := w.interruptions - 1 })
  else
    let amount := min (w.room content.length) (w.chunk.getD content.length)
    if w.room content.length = 0 ∧ content ≠ [] ∧ !w.silentWhenFull then (.failed fullText, w)
    else
      (.took amount, { w with accepted := w.accepted ++ content.take amount })

theorem interruptions_lt_of_interrupted {w next : Writer} {content : List UInt8}
    (written : w.write content = (.interrupted, next)) : next.interruptions < w.interruptions := by
  unfold write at written
  split at written
  · simp only [Prod.mk.injEq, true_and] at written
    simp only [← written]; omega
  · dsimp only at written
    split at written <;> simp at written

theorem interruptions_eq_of_took {w next : Writer} {content : List UInt8} {amount : Nat}
    (written : w.write content = (.took amount, next)) :
    next.interruptions = w.interruptions := by
  unfold write at written
  split at written
  · simp at written
  · dsimp only at written
    split at written
    · simp at written
    · simp only [Prod.mk.injEq] at written
      simp [← written.2]

/-- Writes until all is taken. A writer that takes nothing is refused, one that is interrupted is
tried again. -/
def writeAll (w : Writer) (content : List UInt8) : Except String Unit × Writer :=
  if content.length = 0 then (.ok (), w)
  else
    match written : w.write content with
    | (.failed text, next) => (.error text, next)
    | (.interrupted, next) =>
      have := interruptions_lt_of_interrupted written
      writeAll next content
    | (.took amount, next) =>
      have := interruptions_eq_of_took written
      if amount = 0 then (.error refusedText, next)
      else writeAll next (content.drop amount)
termination_by w.interruptions + content.length
decreasing_by
  · omega
  · simp only [List.length_drop]; omega

def flush (w : Writer) : Except String Unit × Writer :=
  let flushes := w.flushes + 1
  (if flushes ∈ w.failingFlushes then .error flushText else .ok (), { w with flushes })

end Writer

end SensorRelay.Device
