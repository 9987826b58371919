import SensorRelay.Except
import SensorRelay.Numeral
import Mathlib.Data.List.TakeWhile
import Mathlib.Tactic.Common

/-! # Whole numbers read back

A number is read from digits with an optional sign, whatever zeros they start with, if it lies in
the range asked for (`readNat_eq_ok_iff`, `readInt_eq_ok_iff`). The digits that a number is written
with are digits, there is at least one of them, and they stand for the number. So a number reads
back within any range that it lies in.
-/

namespace SensorRelay.Numeral

theorem isDigit_eq (c : Char) : isDigit c = c.isDigit := by
  unfold isDigit digit? Char.isDigit
  split
  · next within => exact within.symm
  · next outside => exact (Bool.not_eq_true _ ▸ outside).symm

theorem digit?_of_isDigit {c : Char} (digit : isDigit c = true) :
    digit? c = some (c.toNat - 48) := by
  unfold isDigit digit? at *
  split <;> simp_all

theorem isDigit_of_mem_ofNat {n : Nat} {c : Char} (listed : c ∈ ofNat n) : isDigit c = true := by
  rw [isDigit_eq]
  exact Nat.isDigit_of_mem_toDigits (by decide) (by decide) listed

theorem ofNat_ne_nil (n : Nat) : ofNat n ≠ [] := Nat.toDigits_ne_nil

theorem exists_length_ofNat (n : Nat) : ∃ k, (ofNat n).length = k + 1 :=
  Nat.exists_eq_add_of_le' (List.length_pos_iff.mpr (ofNat_ne_nil n))

theorem length_ofNat_le {n width : Nat} (wide : 0 < width) (fits : n < 10 ^ width) :
    (ofNat n).length ≤ width :=
  (Nat.length_toDigits_le_iff (by decide) wide).mpr fits

/-- A number of so many digits lies between powers of ten. -/
theorem bounds_of_length {n k : Nat} (positive : 0 < n) (length : (ofNat n).length = k + 1) :
    10 ^ k ≤ n ∧ n < 10 ^ (k + 1) := by
  constructor
  · cases k with
    | zero => exact positive
    | succ k =>
      by_contra less
      have := length_ofNat_le (Nat.succ_pos k) (Nat.not_le.mp less)
      omega
  · exact (Nat.length_toDigits_le_iff (by decide) (Nat.succ_pos k)).mp (Nat.le_of_eq length)

/-- Digits are taken up to the first character that is none. -/
theorem span_digits {digits rest : List Char} (all : ∀ c ∈ digits, isDigit c = true)
    (stops : ∀ c ∈ rest.head?, isDigit c = false) :
    (digits ++ rest).takeWhile isDigit = digits ∧ (digits ++ rest).dropWhile isDigit = rest := by
  rw [List.takeWhile_append_of_pos all, List.dropWhile_append_of_pos all]
  cases rest with
  | nil => simp
  | cons c others =>
    have other := stops c rfl
    simp [other]

theorem valueFrom_eq (start : Nat) (digits : List Char) :
    valueFrom start digits = Nat.ofDigitChars 10 digits start := by
  simp only [valueFrom, Nat.ofDigitChars, Nat.mul_comm]
  rfl

theorem valueFrom_append (start : Nat) (left right : List Char) :
    valueFrom start (left ++ right) = valueFrom (valueFrom start left) right :=
  List.foldl_append

theorem valueFrom_ofNat (n : Nat) : valueFrom 0 (ofNat n) = n := by
  rw [valueFrom_eq]
  exact Nat.ofDigitChars_toDigits (by decide) (by decide)

theorem le_valueFrom (start : Nat) (digits : List Char) : start ≤ valueFrom start digits := by
  rw [valueFrom_eq, Nat.ofDigitChars_eq_ofDigitChars_zero]
  have := Nat.le_mul_of_pos_left start (Nat.pow_pos (n := digits.length) (show 0 < 10 by decide))
  omega

theorem length_padded {width n : Nat} (wide : 0 < width) (fits : n < 10 ^ width) :
    (padded width n).length = width := by
  have := length_ofNat_le wide fits
  simp only [padded, List.length_append, List.length_replicate]
  omega

theorem isDigit_of_mem_padded {width n : Nat} {c : Char} (listed : c ∈ padded width n) :
    isDigit c = true := by
  obtain zero | listed := List.mem_append.mp listed
  · rw [List.eq_of_mem_replicate zero]
    rfl
  · exact isDigit_of_mem_ofNat listed

theorem valueFrom_zeros (start count : Nat) :
    valueFrom start (List.replicate count '0') = start * 10 ^ count := by
  induction count generalizing start with
  | zero => simp [valueFrom]
  | succ count ih =>
    have first : valueFrom start (List.replicate (count + 1) '0') =
        valueFrom (start * 10) (List.replicate count '0') := rfl
    rw [first, ih, Nat.pow_succ', Nat.mul_assoc]

theorem valueFrom_padded {width n : Nat} (wide : 0 < width) (fits : n < 10 ^ width)
    (start : Nat) : valueFrom start (padded width n) = 10 ^ width * start + n := by
  have plain : valueFrom 0 (padded width n) = n := by
    rw [padded, valueFrom_append, valueFrom_zeros, Nat.zero_mul, valueFrom_ofNat]
  rw [valueFrom_eq] at plain ⊢
  rw [Nat.ofDigitChars_eq_ofDigitChars_zero, plain, length_padded wide fits]

/-- Digits stand for less than the power of ten of their number. -/
theorem valueFrom_lt {digits : List Char} (all : ∀ c ∈ digits, isDigit c = true) (start : Nat) :
    valueFrom start digits < (start + 1) * 10 ^ digits.length := by
  induction digits generalizing start with
  | nil => simp [valueFrom]
  | cons c rest ih =>
    rw [List.forall_mem_cons] at all
    have nine : c.toNat - 48 ≤ 9 := by
      have digit := all.1
      rw [isDigit_eq] at digit
      simp only [Char.isDigit, Bool.and_eq_true, decide_eq_true_eq] at digit
      have most : c.toNat ≤ 57 := digit.2
      omega
    have less := ih all.2 (start * 10 + (c.toNat - 48))
    have more : start * 10 + (c.toNat - 48) + 1 ≤ (start + 1) * 10 := by omega
    calc valueFrom start (c :: rest) = valueFrom (start * 10 + (c.toNat - 48)) rest := rfl
      _ < (start * 10 + (c.toNat - 48) + 1) * 10 ^ rest.length := less
      _ ≤ (start + 1) * 10 * 10 ^ rest.length := Nat.mul_le_mul_right _ more
      _ = (start + 1) * 10 ^ (c :: rest).length := by
        rw [List.length_cons, Nat.pow_succ', Nat.mul_assoc]

/-- A positive number does not start with a zero. -/
theorem head_ne_zero {n : Nat} (positive : 0 < n) {c : Char} {rest : List Char}
    (digits : ofNat n = c :: rest) : c ≠ '0' := by
  rintro rfl
  have least := (bounds_of_length positive (congrArg List.length digits)).1
  have value := valueFrom_ofNat n
  rw [digits] at value
  have all : ∀ c ∈ rest, isDigit c = true := fun c listed =>
    isDigit_of_mem_ofNat (digits ▸ List.mem_cons_of_mem _ listed)
  have less := valueFrom_lt all 0
  have same : valueFrom 0 ('0' :: rest) = valueFrom 0 rest := rfl
  omega

/-- Digits are read as what they stand for, unless that is too much. -/
theorem readDigits_of_digits {bound start : Nat} (beyond : Fault) {digits : List Char}
    (all : ∀ c ∈ digits, isDigit c = true) (fits : valueFrom start digits ≤ bound) :
    readDigits bound beyond start digits = .ok (valueFrom start digits) := by
  induction digits generalizing start with
  | nil => rfl
  | cons c rest ih =>
    rw [List.forall_mem_cons] at all
    have first : start * 10 + (c.toNat - 48) ≤ bound :=
      Nat.le_trans (le_valueFrom _ rest) fits
    rw [readDigits, digit?_of_isDigit all.1]
    simp only [if_neg (Nat.not_lt.mpr first)]
    exact ih all.2 fits

/-- The digits of a number start with a digit. -/
theorem ofNat_eq_cons (n : Nat) : ∃ c rest, ofNat n = c :: rest ∧ isDigit c = true := by
  obtain ⟨c, rest, digits⟩ := List.exists_cons_of_ne_nil (ofNat_ne_nil n)
  exact ⟨c, rest, digits, isDigit_of_mem_ofNat (digits ▸ List.mem_cons_self)⟩

/-- Digits, at least one, and the number that they stand for. -/
structure DigitsText (text : List Char) (n : Nat) : Prop where
  nonempty : text ≠ []
  all : ∀ c ∈ text, c.isDigit = true
  value : Nat.ofDigitChars 10 text 0 = n

/-- Digits after an optional plus sign. -/
inductive NatText : List Char → Nat → Prop
  | unsigned {text : List Char} {n : Nat} (digits : DigitsText text n) : NatText text n
  | plus {text : List Char} {n : Nat} (digits : DigitsText text n) : NatText ('+' :: text) n

/-- Digits after an optional sign. -/
inductive IntText : List Char → Int → Prop
  | unsigned {text : List Char} {n : Nat} (digits : DigitsText text n) : IntText text n
  | plus {text : List Char} {n : Nat} (digits : DigitsText text n) : IntText ('+' :: text) n
  | minus {text : List Char} {n : Nat} (digits : DigitsText text n) : IntText ('-' :: text) (-n)

section Texts

variable {bound n : Nat} {text : List Char} {beyond : Fault}

theorem DigitsText.head {c : Char} {rest : List Char} (digits : DigitsText (c :: rest) n) :
    c.isDigit = true := digits.all c List.mem_cons_self

theorem of_readDigits {start : Nat} (fits : start ≤ bound)
    (read : readDigits bound beyond start text = .ok n) :
    (∀ c ∈ text, isDigit c = true) ∧ valueFrom start text = n ∧ n ≤ bound := by
  induction text generalizing start with
  | nil =>
    cases read
    exact ⟨nofun, rfl, fits⟩
  | cons c rest ih =>
    unfold readDigits at read
    split at read
    · cases read
    · next d digit =>
      have first : isDigit c = true := by rw [isDigit, digit, Option.isSome_some]
      obtain rfl : c.toNat - 48 = d := Option.some.inj ((digit?_of_isDigit first).symm.trans digit)
      split at read
      · cases read
      · next within =>
        obtain ⟨all, value⟩ := ih (Nat.not_lt.mp within) read
        exact ⟨List.forall_mem_cons.mpr ⟨first, all⟩, value⟩

/-- What is read as a magnitude is digits, and nothing else is. -/
theorem readMagnitude_eq_ok_iff :
    readMagnitude bound beyond text = .ok n ↔ DigitsText text n ∧ n ≤ bound := by
  have same : (∀ c ∈ text, c.isDigit = true) ↔ ∀ c ∈ text, isDigit c = true := by
    simp only [isDigit_eq]
  constructor
  · intro read
    unfold readMagnitude at read
    split at read
    · cases read
    · next something =>
      obtain ⟨all, value, fits⟩ := of_readDigits (Nat.zero_le bound) read
      exact ⟨⟨fun nothing => something (by rw [nothing, List.isEmpty_nil]), same.mpr all,
        valueFrom_eq 0 text ▸ value⟩, fits⟩
  · rintro ⟨⟨nonempty, all, value⟩, fits⟩
    rw [← valueFrom_eq] at value
    rw [readMagnitude, List.isEmpty_eq_false_iff.mpr nonempty, if_neg (by decide),
      readDigits_of_digits beyond (same.mp all) (Nat.le_trans (Nat.le_of_eq value) fits), value]

theorem readNat_eq_ok_iff : readNat bound text = .ok n ↔ NatText text n ∧ n ≤ bound := by
  constructor
  · intro read
    unfold readNat at read
    split at read
    · cases read
    · obtain ⟨digits, fits⟩ := readMagnitude_eq_ok_iff.mp read
      exact ⟨.plus digits, fits⟩
    · obtain ⟨digits, fits⟩ := readMagnitude_eq_ok_iff.mp read
      exact ⟨.unsigned digits, fits⟩
  · rintro ⟨_ | digits, fits⟩
    · next digits =>
      unfold readNat
      split
      · exact absurd rfl digits.nonempty
      · exact absurd digits.head (by decide)
      · exact readMagnitude_eq_ok_iff.mpr ⟨digits, fits⟩
    · exact readMagnitude_eq_ok_iff.mpr ⟨digits, fits⟩

private theorem readInt_minus (low high : Nat) (digits : List Char) :
    readInt low high ('-' :: digits) =
      (readMagnitude low .tooSmall digits).map fun (n : Nat) => -(n : Int) := by
  simp only [readInt]
  cases readMagnitude low .tooSmall digits <;> rfl

theorem readInt_eq_ok_iff {low high : Nat} {m : Int} :
    readInt low high text = .ok m ↔ IntText text m ∧ -(low : Int) ≤ m ∧ m ≤ high := by
  constructor
  · intro read
    unfold readInt at read
    split at read
    · cases read
    · obtain ⟨size, magnitude, rfl⟩ := Except.map_eq_ok_iff.mp read
      obtain ⟨digits, fits⟩ := readMagnitude_eq_ok_iff.mp magnitude
      exact ⟨.plus digits, by simp only [Int.ofNat_eq_natCast]; omega⟩
    · next digits =>
      change readInt low high ('-' :: digits) = .ok m at read
      rw [readInt_minus] at read
      obtain ⟨size, magnitude, rfl⟩ := Except.map_eq_ok_iff.mp read
      obtain ⟨digits, fits⟩ := readMagnitude_eq_ok_iff.mp magnitude
      exact ⟨.minus digits, by omega⟩
    · obtain ⟨size, magnitude, rfl⟩ := Except.map_eq_ok_iff.mp read
      obtain ⟨digits, fits⟩ := readMagnitude_eq_ok_iff.mp magnitude
      exact ⟨.unsigned digits, by simp only [Int.ofNat_eq_natCast]; omega⟩
  · rintro ⟨spelled, fitsLow, fitsHigh⟩
    cases spelled with
    | @unsigned _ size digits =>
      have magnitude : readMagnitude high .tooLarge text = .ok size :=
        readMagnitude_eq_ok_iff.mpr ⟨digits, by omega⟩
      unfold readInt
      split
      · exact absurd rfl digits.nonempty
      · exact absurd digits.head (by decide)
      · exact absurd digits.head (by decide)
      · exact Except.map_eq_ok_iff.mpr ⟨size, magnitude, rfl⟩
    | @plus _ size digits =>
      exact Except.map_eq_ok_iff.mpr ⟨size, readMagnitude_eq_ok_iff.mpr ⟨digits, by omega⟩, rfl⟩
    | @minus _ size digits =>
      rw [readInt_minus]
      exact Except.map_eq_ok_iff.mpr ⟨size, readMagnitude_eq_ok_iff.mpr ⟨digits, by omega⟩, rfl⟩

end Texts

theorem digitsText_ofNat (n : Nat) : DigitsText (ofNat n) n where
  nonempty := ofNat_ne_nil n
  all c listed := isDigit_eq c ▸ isDigit_of_mem_ofNat listed
  value := valueFrom_eq 0 (ofNat n) ▸ valueFrom_ofNat n

theorem readNat_ofNat {bound n : Nat} (fits : n ≤ bound) : readNat bound (ofNat n) = .ok n :=
  readNat_eq_ok_iff.mpr ⟨.unsigned (digitsText_ofNat n), fits⟩

theorem intText_ofInt (n : Int) : IntText (ofInt n) n := by
  unfold ofInt
  split
  · next negative =>
    have signed := IntText.minus (digitsText_ofNat n.natAbs)
    rwa [show -(n.natAbs : Int) = n by omega] at signed
  · next positive =>
    have plain := IntText.unsigned (digitsText_ofNat n.natAbs)
    rwa [show (n.natAbs : Int) = n by omega] at plain

/-- A number reads back within a range that it lies in. -/
theorem readInt_ofInt {low high : Nat} {n : Int} (notLow : -(low : Int) ≤ n)
    (notHigh : n ≤ (high : Int)) : readInt low high (ofInt n) = .ok n :=
  readInt_eq_ok_iff.mpr ⟨intText_ofInt n, notLow, notHigh⟩

end SensorRelay.Numeral
