import SensorRelay.Proofs.Queue.Effect
import SensorRelay.Scenario.Item

/-! # Items with a fixed marker check

The check for the marker may panic, and it may leave its traces on an item, but what it says is
mostly a matter of the item alone. The face of an item is what the checks leave alone about it; the
items are steady if a face tells the markers from the others.
-/

namespace SensorRelay

variable {α β : Type} [QueueItem α]

/-- Marker checks leave the face of an item alone, and what they say depends on it alone. -/
structure Steady (face : α → β) (isMarker : β → Bool) : Prop where
  keeps {item seen : α} {verdict : Bool} (checked : QueueItem.inspect item = .seen verdict seen) :
    face seen = face item
  tells {item seen : α} {verdict : Bool} (checked : QueueItem.inspect item = .seen verdict seen) :
    verdict = isMarker (face item)

/-- Marker checks never panic. -/
def Calm (α : Type) [QueueItem α] : Prop := ∀ item : α, QueueItem.inspect item ≠ .panicked

/-- A lock stays sound if no marker check panics. -/
theorem SharedQueue.Effect.sound (calm : Calm α) {q next : SharedQueue α} {call : Call α}
    {reply : Option (Reply α)} {signal : Option Signal} (effect : Effect q next call reply signal)
    (sound : q.poisoned = false) : next.poisoned = false := by
  cases effect with
  | refused same => exact same ▸ sound
  | inserted _ _ _ stillSound => exact stillSound
  | waits same => exact same ▸ sound
  | removed _ _ _ _ stillSound => exact stillSound
  | metMarker _ _ _ _ _ stillSound => exact stillSound
  | drained same => exact same ▸ sound
  | closed _ _ stillSound => exact stillSound
  | closedBefore same => exact same ▸ sound
  | destroyed _ _ stillSound => exact stillSound
  | counted same => exact same ▸ sound
  | judged same => exact same ▸ sound
  | peeked _ _ _ _ stillSound => exact stillSound
  | panicked _ _ checked => exact (calm _ checked).elim

theorem steady_reading : Steady (α := Reading) id Reading.isEndOfStream where
  keeps checked := by cases checked; rfl
  tells checked := by cases checked; rfl

theorem calm_reading : Calm Reading := fun _ => nofun

/-- A fuse panics once, but it does not change what a check says. -/
theorem steady_fusedReading :
    Steady Scenario.FusedReading.reading Reading.isEndOfStream where
  keeps {item _ _} checked := by
    change Scenario.FusedReading.inspect item = _ at checked
    unfold Scenario.FusedReading.inspect at checked
    split at checked <;> cases checked <;> rfl
  tells {item _ _} checked := by
    change Scenario.FusedReading.inspect item = _ at checked
    unfold Scenario.FusedReading.inspect at checked
    split at checked <;> cases checked <;> rfl

end SensorRelay
