import SensorRelay.Reading.Basic

/-! # Binary records

A reading is stored in eighteen bytes: id, pattern of the value and timestamp, each with its least
byte first. Every block of eighteen bytes is the record of exactly one reading.
-/

namespace SensorRelay

/-- The low `width` bytes of a number, least first. -/
def littleEndian : Nat → Nat → List UInt8
  | 0, _ => []
  | width + 1, n => UInt8.ofNat n :: littleEndian width (n / 256)

/-- The number that bytes stand for, least first. -/
def ofLittleEndian : List UInt8 → Nat
  | [] => 0
  | byte :: rest => byte.toNat + 256 * ofLittleEndian rest

namespace Record

/-- Bytes of one record. -/
def size : Nat := 18

def encode (r : Reading) : List UInt8 :=
  littleEndian 2 r.id.toNat ++ littleEndian 8 r.value.bits.toNat ++
    littleEndian 8 r.timestamp.toUInt64.toNat

/-- The reading whose record is a block of eighteen bytes. -/
def decode (block : List UInt8) : Reading where
  id := UInt16.ofNat (ofLittleEndian (block.take 2))
  value := ⟨UInt64.ofNat (ofLittleEndian ((block.drop 2).take 8))⟩
  timestamp := (UInt64.ofNat (ofLittleEndian ((block.drop 10).take 8))).toInt64

theorem length_littleEndian (width n : Nat) : (littleEndian width n).length = width := by
  induction width generalizing n with
  | zero => rfl
  | succ width ih => simp [littleEndian, ih]

theorem length_encode (r : Reading) : (encode r).length = size := by
  simp [encode, length_littleEndian, size]

end Record

end SensorRelay
