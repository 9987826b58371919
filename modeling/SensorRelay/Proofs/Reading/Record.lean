import SensorRelay.Proofs.Reading.Stream
import Mathlib.Tactic.Ring

/-! # A reading and its record

Eighteen bytes hold exactly what a reading is, pattern of the value and all. So a reading and its
record give each other back, and so do readings and the whole records of some bytes.
-/

namespace SensorRelay

theorem ofLittleEndian_littleEndian {width n : Nat} (fits : n < 256 ^ width) :
    ofLittleEndian (littleEndian width n) = n := by
  induction width generalizing n with
  | zero =>
    have nothing : n = 0 := by simpa using fits
    rw [nothing]
    rfl
  | succ width ih =>
    have rest : n / 256 < 256 ^ width := by
      rw [Nat.pow_succ] at fits
      exact (Nat.div_lt_iff_lt_mul (by decide)).mpr fits
    have low : (UInt8.ofNat n).toNat = n % 256 := UInt8.toNat_ofNat'
    rw [littleEndian, ofLittleEndian, ih rest, low]
    omega

theorem littleEndian_ofLittleEndian (bytes : List UInt8) :
    littleEndian bytes.length (ofLittleEndian bytes) = bytes := by
  induction bytes with
  | nil => rfl
  | cons byte rest ih =>
    have low := byte.toNat_lt
    have quotient : (byte.toNat + 256 * ofLittleEndian rest) / 256 = ofLittleEndian rest := by
      omega
    have first : UInt8.ofNat (byte.toNat + 256 * ofLittleEndian rest) = byte := by
      apply UInt8.toNat_inj.mp
      rw [UInt8.toNat_ofNat']
      omega
    rw [List.length_cons, ofLittleEndian, littleEndian, quotient, first, ih]

theorem ofLittleEndian_lt (bytes : List UInt8) : ofLittleEndian bytes < 256 ^ bytes.length := by
  induction bytes with
  | nil => decide
  | cons byte rest ih =>
    have low := byte.toNat_lt
    rw [ofLittleEndian, List.length_cons, Nat.pow_succ]
    omega

namespace Record

/-- The record of a reading is read as this reading. -/
theorem decode_encode (r : Reading) : decode (encode r) = r := by
  obtain ⟨id, ⟨value⟩, timestamp⟩ := r
  have wordLength (n : Nat) : (littleEndian 8 n).length = 8 := length_littleEndian 8 n
  have idLength : (littleEndian 2 id.toNat).length = 2 := length_littleEndian 2 _
  have word (n : UInt64) : UInt64.ofNat (ofLittleEndian (littleEndian 8 n.toNat)) = n := by
    rw [ofLittleEndian_littleEndian n.toNat_lt, UInt64.ofNat_toNat]
  have first : (encode ⟨id, ⟨value⟩, timestamp⟩).take 2 = littleEndian 2 id.toNat := by
    rw [encode, List.append_assoc, List.take_left' idLength]
  have second : ((encode ⟨id, ⟨value⟩, timestamp⟩).drop 2).take 8 =
      littleEndian 8 value.toNat := by
    rw [encode, List.append_assoc, List.drop_left' idLength, List.take_left' (wordLength _)]
  have third : ((encode ⟨id, ⟨value⟩, timestamp⟩).drop 10).take 8 =
      littleEndian 8 timestamp.toUInt64.toNat := by
    rw [encode, List.drop_left' (by rw [List.length_append, idLength, wordLength]),
      List.take_of_length_le (wordLength _).le]
  rw [decode, first, second, third, word, word,
    ofLittleEndian_littleEndian id.toNat_lt, UInt16.ofNat_toNat, Int64.toInt64_toUInt64]

/-- A block of a record's size is the record of the reading that it is read as. -/
theorem encode_decode {block : List UInt8} (whole : block.length = size) :
    encode (decode block) = block := by
  have word {bytes : List UInt8} (length : bytes.length = 8) :
      littleEndian 8 (UInt64.ofNat (ofLittleEndian bytes)).toNat = bytes := by
    have fits := ofLittleEndian_lt bytes
    rw [length] at fits
    rw [UInt64.toNat_ofNat_of_lt' fits, ← length, littleEndian_ofLittleEndian]
  have id {bytes : List UInt8} (length : bytes.length = 2) :
      littleEndian 2 (UInt16.ofNat (ofLittleEndian bytes)).toNat = bytes := by
    have fits := ofLittleEndian_lt bytes
    rw [length] at fits
    rw [UInt16.toNat_ofNat_of_lt' fits, ← length, littleEndian_ofLittleEndian]
  have eighteen : block.length = 18 := whole
  have last : (block.drop 10).take 8 = (block.drop 2).drop 8 := by
    rw [List.drop_drop]
    exact List.take_of_length_le (by rw [List.length_drop]; omega)
  simp only [encode, decode, UInt64.toUInt64_toInt64, last]
  rw [id (by rw [List.length_take]; omega),
    word (by rw [List.length_take, List.length_drop]; omega),
    word (by rw [List.length_drop, List.length_drop]; omega), List.append_assoc,
    List.take_append_drop, List.take_append_drop]

/-- The first of the bytes that records make are read as the readings whose records are whole. -/
theorem readings_take_flatMap_encode (rs : List Reading) (count : Nat) :
    readings ((rs.flatMap encode).take count) = rs.take (count / size) := by
  induction rs generalizing count with
  | nil =>
    rw [List.flatMap_nil, List.take_nil, List.take_nil]
    rfl
  | cons r rest ih =>
    obtain short | long := Nat.lt_or_ge count size
    · rw [Nat.div_eq_of_lt short, List.take_zero]
      exact readings_of_lt ((List.length_take_le _ _).trans_lt short)
    · obtain ⟨more, rfl⟩ := Nat.exists_eq_add_of_le long
      have start : ((r :: rest).flatMap encode).take (size + more) =
          encode r ++ (rest.flatMap encode).take more := by
        rw [List.flatMap_cons, ← length_encode r, List.take_length_add_append]
      have quotient : (size + more) / size = more / size + 1 :=
        Nat.add_div_left more (by decide)
      rw [start, quotient, List.take_succ_cons,
        readings_of_le (by rw [List.length_append, length_encode]; omega),
        List.take_left' (length_encode r), List.drop_left' (length_encode r), decode_encode, ih]

/-- The records of the readings that bytes are read as are the whole records of these bytes. -/
theorem flatMap_encode_readings (content : List UInt8) :
    (readings content).flatMap encode = content.take (size * (content.length / size)) := by
  induction length : content.length using Nat.strongRecOn generalizing content with
  | ind total ih =>
    subst length
    obtain short | long := Nat.lt_or_ge content.length size
    · rw [readings_of_lt short, Nat.div_eq_of_lt short]
      rfl
    · have block : (content.take size).length = size := by
        rw [List.length_take, Nat.min_eq_left long]
      have shorter : (content.drop size).length < content.length := by
        rw [List.length_drop]
        exact Nat.sub_lt (Nat.lt_of_lt_of_le (by decide) long) (by decide)
      have rest := ih _ shorter (content.drop size) rfl
      have quotient : content.length / size = (content.drop size).length / size + 1 := by
        rw [List.length_drop, Nat.div_eq_sub_div (by decide) long]
      rw [readings_of_le long, List.flatMap_cons, encode_decode block, rest, quotient, Nat.mul_succ,
        Nat.add_comm (size * _), List.take_add]

end Record

end SensorRelay
