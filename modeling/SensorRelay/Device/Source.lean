/-! # Byte sources

A source delivers bytes in pieces of its own choosing. Reading it takes at most as many bytes as
were asked for, may be interrupted, may fail, and gives nothing at the end.
-/

namespace SensorRelay.Device

/-- One thing that a source has in store. -/
inductive Delivery
  | bytes (content : List UInt8)
  | interruption
  | failure (text : String)
deriving DecidableEq, Repr

/-- A source with all that it will deliver, and the most that one read gives. -/
structure Source where
  deliveries : List Delivery
  maxRead : Option Nat
deriving DecidableEq, Repr

/-- What one read gives. -/
inductive ReadOutcome
  | bytes (content : List UInt8)
  | interrupted
  | failed (text : String)
deriving DecidableEq, Repr

namespace Source

def ofBytes (content : List UInt8) : Source := ⟨[.bytes content], none⟩

/-- Reads up to `wanted` bytes. What is left of a piece stays for the next read; once all is
delivered every read gives nothing. -/
def read (source : Source) (wanted : Nat) : ReadOutcome × Source :=
  match source.deliveries with
  | [] => (.bytes [], source)
  | .interruption :: rest => (.interrupted, { source with deliveries := rest })
  | .failure text :: rest => (.failed text, { source with deliveries := rest })
  | .bytes content :: rest =>
    let amount := min wanted (source.maxRead.getD wanted)
    let left := content.drop amount
    let deliveries := if left.isEmpty then rest else .bytes left :: rest
    (.bytes (content.take amount), { source with deliveries })

/-- Reads use up deliveries, or leave a piece shorter by what they gave. -/
theorem length_deliveries_read (source : Source) (wanted : Nat) :
    (source.read wanted).2.deliveries.length ≤ source.deliveries.length := by
  unfold read
  split
  · simp
  · rename_i given; simp [given]
  · rename_i given; simp [given]
  · rename_i given
    dsimp only
    split <;> simp [given]

theorem length_read_le {source : Source} {wanted : Nat} {content : List UInt8}
    (given : (source.read wanted).1 = .bytes content) : content.length ≤ wanted := by
  unfold read at given
  split at given <;> simp at given
  · simp [given]
  · rw [← given, List.length_take]
    exact Nat.le_trans (Nat.min_le_left _ _) (Nat.min_le_left _ _)

/-- An interruption is used up by the read that it spoils. -/
theorem length_deliveries_of_interrupted {source : Source} {wanted : Nat}
    (given : (source.read wanted).1 = .interrupted) :
    (source.read wanted).2.deliveries.length < source.deliveries.length := by
  unfold read at given ⊢
  split at given
  · simp at given
  · simp_all
  · simp at given
  · simp at given

end Source

end SensorRelay.Device
