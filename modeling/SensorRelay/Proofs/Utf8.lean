import SensorRelay.Text.Utf8
import Mathlib.Data.List.Forall2

/-! # UTF-8 read back

The first byte of a character tells what may follow it, and the bytes that a character is stored as
are just of that kind (`spelled_encoded`). So every text is read back from its bytes. A byte of a
character is the character itself or none of ASCII, so bytes of control characters are stored for
control characters only.
-/

namespace SensorRelay.Text

/-- Bytes that come after a first one and lie in the ranges for them. -/
def Within (ranges : List (Nat × Nat)) (others : List UInt8) : Prop :=
  List.Forall₂ (fun range byte => range.1 ≤ byte.toNat ∧ byte.toNat ≤ range.2) ranges others

/-- Bytes that stand for a character. -/
structure Spelled (c : Char) (first : UInt8) (others : List UInt8) : Prop where
  follow : ∃ ranges, followers? first.toNat = some ranges ∧ Within ranges others
  code : codePoint first.toNat others = c.toNat

section Read

variable {ranges : List (Nat × Nat)} {c : Char} {first : UInt8} {others : List UInt8}

theorem Within.matching_append (within : Within ranges others) (rest : List UInt8) :
    matching ranges (others ++ rest) = ranges.length := by
  induction within with
  | nil => cases rest <;> rfl
  | cons inside _ ih => rw [List.cons_append, matching, if_pos inside, ih, List.length_cons]

theorem Spelled.firstChar_append (spelled : Spelled c first others) (rest : List UInt8) :
    firstChar first (others ++ rest) = (some c, others.length) := by
  obtain ⟨⟨ranges, start, within⟩, code⟩ := spelled
  have length : ranges.length = others.length := within.length_eq
  simp only [firstChar, start, within.matching_append, if_true, length, List.take_left, code,
    Char.ofNat_toNat]

end Read

section Written

variable {v : Nat}

private theorem toNat_byte {n : Nat} (small : n < 256) : (UInt8.ofNat n).toNat = n :=
  UInt8.toNat_ofNat_of_lt' small

/-- The second of three bytes is kept apart from the characters of two bytes and from the
surrogates. -/
private theorem followers?_three (low : 2048 ≤ v) (high : v ≤ 65535)
    (valid : v < 0xd800 ∨ 0xdfff < v) :
    ∃ range : Nat × Nat, followers? (v / 4096 % 16 + 224) = some [range, (0x80, 0xbf)] ∧
      range.1 ≤ v / 64 % 64 + 128 ∧ v / 64 % 64 + 128 ≤ range.2 := by
  by_cases first : v / 4096 % 16 + 224 = 0xe0
  · refine ⟨(0xa0, 0xbf), by rw [first]; rfl, ?_, ?_⟩ <;> omega
  by_cases surrogate : v / 4096 % 16 + 224 = 0xed
  · refine ⟨(0x80, 0x9f), by rw [surrogate]; rfl, ?_, ?_⟩ <;> omega
  refine ⟨(0x80, 0xbf), ?_, by omega, by omega⟩
  unfold followers?
  rw [if_neg (by omega), if_neg (by omega), if_neg first, if_neg surrogate, if_pos (by omega)]

/-- The second of four bytes is kept apart from the characters of three bytes and from what is past
the last character. -/
private theorem followers?_four (low : 65536 ≤ v) (high : v < 0x110000) :
    ∃ range : Nat × Nat,
      followers? (v / 262144 % 8 + 240) = some [range, (0x80, 0xbf), (0x80, 0xbf)] ∧
      range.1 ≤ v / 4096 % 64 + 128 ∧ v / 4096 % 64 + 128 ≤ range.2 := by
  by_cases first : v / 262144 % 8 + 240 = 0xf0
  · refine ⟨(0x90, 0xbf), by rw [first]; rfl, ?_, ?_⟩ <;> omega
  by_cases last : v / 262144 % 8 + 240 = 0xf4
  · refine ⟨(0x80, 0x8f), by rw [last]; rfl, ?_, ?_⟩ <;> omega
  refine ⟨(0x80, 0xbf), ?_, by omega, by omega⟩
  unfold followers?
  rw [if_neg (by omega), if_neg (by omega), if_neg (by omega), if_neg (by omega),
    if_neg (by omega), if_neg first, if_pos (by omega)]

/-- How a character is stored, by the number of its bytes. -/
private theorem encoded_eq (c : Char) :
    String.utf8EncodeChar c =
      if c.toNat ≤ 127 then [.ofNat c.toNat]
      else if c.toNat ≤ 2047 then [.ofNat (c.toNat / 64 % 32 + 192), .ofNat (c.toNat % 64 + 128)]
      else if c.toNat ≤ 65535 then
        [.ofNat (c.toNat / 4096 % 16 + 224), .ofNat (c.toNat / 64 % 64 + 128),
          .ofNat (c.toNat % 64 + 128)]
      else
        [.ofNat (c.toNat / 262144 % 8 + 240), .ofNat (c.toNat / 4096 % 64 + 128),
          .ofNat (c.toNat / 64 % 64 + 128), .ofNat (c.toNat % 64 + 128)] := rfl

/-- The bytes that a character is stored as stand for it. -/
theorem spelled_encoded (c : Char) :
    ∃ first others, String.utf8EncodeChar c = first :: others ∧ Spelled c first others := by
  have valid : c.toNat < 0xd800 ∨ 0xdfff < c.toNat ∧ c.toNat < 0x110000 := c.valid
  have any (n : Nat) : 0x80 ≤ (UInt8.ofNat (n % 64 + 128)).toNat ∧
      (UInt8.ofNat (n % 64 + 128)).toNat ≤ 0xbf := by
    rw [toNat_byte (by omega)]
    omega
  rw [encoded_eq]
  split
  · next one =>
    refine ⟨_, _, rfl, ⟨[], ?_, .nil⟩, ?_⟩
    · rw [toNat_byte (by omega)]
      exact if_pos (by omega)
    · exact toNat_byte (by omega)
  split
  · next two =>
    refine ⟨_, _, rfl, ⟨[(0x80, 0xbf)], ?_, .cons (any _) .nil⟩, ?_⟩
    · rw [toNat_byte (by omega), followers?, if_neg (by omega), if_pos (by omega)]
    · simp only [codePoint, List.length_cons, List.length_nil, List.foldl_cons, List.foldl_nil]
      rw [toNat_byte (by omega), toNat_byte (by omega)]
      omega
  split
  · next three =>
    obtain ⟨range, start, second⟩ := followers?_three (v := c.toNat) (by omega) three (by omega)
    refine ⟨_, _, rfl, ⟨[range, (0x80, 0xbf)], ?_, .cons ?_ (.cons (any _) .nil)⟩, ?_⟩
    · rw [toNat_byte (by omega)]
      exact start
    · rw [toNat_byte (by omega)]
      exact second
    · simp only [codePoint, List.length_cons, List.length_nil, List.foldl_cons, List.foldl_nil]
      rw [toNat_byte (by omega), toNat_byte (by omega), toNat_byte (by omega)]
      omega
  · obtain ⟨range, start, second⟩ := followers?_four (v := c.toNat) (by omega) (by omega)
    refine ⟨_, _, rfl, ⟨[range, (0x80, 0xbf), (0x80, 0xbf)], ?_,
      .cons ?_ (.cons (any _) (.cons (any _) .nil))⟩, ?_⟩
    · rw [toNat_byte (by omega)]
      exact start
    · rw [toNat_byte (by omega)]
      exact second
    · simp only [codePoint, List.length_cons, List.length_nil, List.foldl_cons, List.foldl_nil]
      rw [toNat_byte (by omega), toNat_byte (by omega), toNat_byte (by omega),
        toNat_byte (by omega)]
      omega

theorem utf8EncodeChar_of_ascii {c : Char} (ascii : c.toNat < 128) :
    String.utf8EncodeChar c = [UInt8.ofNat c.toNat] :=
  if_pos (Nat.le_of_lt_succ ascii)

/-- No byte of ASCII is part of another character. -/
theorem byte_eq_or_le {c : Char} {byte : UInt8} (listed : byte ∈ String.utf8EncodeChar c) :
    byte.toNat = c.toNat ∨ 0x80 ≤ byte.toNat := by
  have outside {n : Nat} (low : 0x80 ≤ n) (high : n < 256) : 0x80 ≤ (UInt8.ofNat n).toNat := by
    rwa [toNat_byte high]
  rw [encoded_eq] at listed
  split at listed
  · next one =>
    obtain rfl := List.mem_singleton.mp listed
    exact .inl (toNat_byte (by omega))
  refine .inr ?_
  split at listed
  · simp only [List.mem_cons, List.not_mem_nil, or_false] at listed
    rcases listed with rfl | rfl <;> exact outside (by omega) (by omega)
  split at listed
  · simp only [List.mem_cons, List.not_mem_nil, or_false] at listed
    rcases listed with rfl | rfl | rfl <;> exact outside (by omega) (by omega)
  · simp only [List.mem_cons, List.not_mem_nil, or_false] at listed
    rcases listed with rfl | rfl | rfl | rfl <;> exact outside (by omega) (by omega)

end Written

theorem toUtf8_eq (text : String) : toUtf8 text = text.toList.flatMap String.utf8EncodeChar := by
  obtain ⟨chars, rfl⟩ : ∃ chars, text = String.ofList chars := ⟨_, String.ofList_toList.symm⟩
  rw [toUtf8, String.toUTF8_eq_toByteArray, String.toByteArray_ofList, String.toList_ofList]
  exact List.toList_data_toByteArray

theorem decode_encoded (chars : List Char) :
    decode (chars.flatMap String.utf8EncodeChar) = chars.map some := by
  induction chars with
  | nil => rw [List.flatMap_nil, decode, List.map_nil]
  | cons c rest ih =>
    obtain ⟨first, others, encoded, spelled⟩ := spelled_encoded c
    rw [List.flatMap_cons, encoded, List.cons_append, decode, spelled.firstChar_append]
    simp only [List.drop_left, ih, List.map_cons]

/-- Every text is read back from its bytes. -/
theorem ofUtf8?_toUtf8 (text : String) : ofUtf8? (toUtf8 text) = some text := by
  have whole : (text.toList.map some).mapM id = some text.toList := by
    rw [List.mapM_map]
    exact List.mapM_pure.trans (congrArg some text.toList.map_id)
  rw [ofUtf8?, toUtf8_eq, decode_encoded, whole, Option.map_some, String.ofList_toList]

/-- The bytes of an ASCII text stand for it. -/
theorem ofUtf8?_ascii {text : List Char} (ascii : ∀ c ∈ text, c.toNat < 128) :
    ofUtf8? (text.map fun c => UInt8.ofNat c.toNat) = some (String.ofList text) := by
  have bytes : toUtf8 (String.ofList text) = text.map fun c => UInt8.ofNat c.toNat := by
    rw [toUtf8_eq, String.toList_ofList, List.map_eq_flatMap]
    exact List.flatMap_congr fun c listed => utf8EncodeChar_of_ascii (ascii c listed)
  rw [← bytes, ofUtf8?_toUtf8]

theorem toUtf8_injective : Function.Injective toUtf8 := by
  intro text other same
  have read := ofUtf8?_toUtf8 text
  rw [same, ofUtf8?_toUtf8] at read
  exact (Option.some.inj read).symm

end SensorRelay.Text
