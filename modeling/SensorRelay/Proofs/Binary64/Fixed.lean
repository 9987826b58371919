import SensorRelay.Proofs.Binary64.Hundredths
import SensorRelay.Proofs.Binary64.Literal

/-! # Two decimals read back

What a finite value is written as stands for the number of hundredths that it was rounded to, and
is read as the value nearest to that number. A NaN is read as a NaN, and an infinity as itself.
-/

namespace SensorRelay.Binary64

/-- A text with two decimals stands for a number. -/
inductive Denotes : List Char → ℚ → Prop
  | unsigned {whole fraction : List Char} (something : whole ≠ [])
      (digits : ∀ c ∈ whole ++ fraction, c.isDigit = true) (two : fraction.length = 2) :
      Denotes (whole ++ '.' :: fraction) (Nat.ofDigitChars 10 (whole ++ fraction) 0 / 100)
  | negative {whole fraction : List Char} (something : whole ≠ [])
      (digits : ∀ c ∈ whole ++ fraction, c.isDigit = true) (two : fraction.length = 2) :
      Denotes ('-' :: (whole ++ '.' :: fraction))
        (-(Nat.ofDigitChars 10 (whole ++ fraction) 0 / 100))

/-- The digits before and after the point of a number of hundredths. -/
private theorem hundredths_digits (n : Nat) :
    let fraction := Numeral.padded 2 (n % 100)
    hundredthsText n = Numeral.ofNat (n / 100) ++ '.' :: fraction ∧ fraction.length = 2 ∧
      (∀ c ∈ Numeral.ofNat (n / 100) ++ fraction, Numeral.isDigit c = true) ∧
      Numeral.valueFrom 0 (Numeral.ofNat (n / 100) ++ fraction) = n := by
  have few : n % 100 < 10 ^ 2 := Nat.mod_lt n (by decide)
  refine ⟨rfl, Numeral.length_padded (by decide) few, ?_, ?_⟩
  · intro c listed
    exact (List.mem_append.mp listed).elim Numeral.isDigit_of_mem_ofNat
      Numeral.isDigit_of_mem_padded
  · rw [Numeral.valueFrom_append, Numeral.valueFrom_ofNat,
      Numeral.valueFrom_padded (by decide) few]
    omega

theorem fixed_of_finite {x : Binary64} (finite : x.isFinite = true) :
    x.fixed =
      if x.isNegative then '-' :: hundredthsText x.hundredths else hundredthsText x.hundredths := by
  have notNaN : x.isNaN = false := by
    simp only [isFinite, isNaN, decide_eq_true_eq, decide_eq_false_iff_not] at *
    omega
  have notInfinite : x.isInfinite = false := by
    simp only [isFinite, isInfinite, decide_eq_true_eq, beq_eq_false_iff_ne] at *
    omega
  simp only [fixed, notNaN, notInfinite, Bool.false_eq_true, if_false]

/-- What a finite value is written as stands for the number that it was rounded to. -/
theorem denotes_fixed {x : Binary64} (finite : x.isFinite = true) :
    Denotes x.fixed x.decimal := by
  obtain ⟨text, two, digits, value⟩ := hundredths_digits x.hundredths
  simp only [Numeral.isDigit_eq] at digits
  rw [Numeral.valueFrom_eq] at value
  rw [fixed_of_finite finite, decimal, text]
  cases x.isNegative with
  | false =>
    have plain := Denotes.unsigned (Numeral.ofNat_ne_nil _) digits two
    rw [value] at plain
    simpa only [Bool.false_eq_true, if_false, one_mul] using plain
  | true =>
    have signed := Denotes.negative (Numeral.ofNat_ne_nil _) digits two
    rw [value] at signed
    simpa only [if_true, neg_one_mul] using signed

/-- An eighth is as far from thirteen hundredths as from twelve, which are even. -/
example : fixed ⟨0x3fc0000000000000⟩ = ['0', '.', '1', '2'] := by decide +kernel

private theorem decimalText_hundredthsText (n : Nat) : DecimalText (hundredthsText n) ⟨n, -2⟩ := by
  obtain ⟨text, two, digits, value⟩ := hundredths_digits n
  simp only [Numeral.isDigit_eq] at digits
  rw [Numeral.valueFrom_eq] at value
  have nonempty : Numeral.ofNat (n / 100) ++ Numeral.padded 2 (n % 100) ≠ [] :=
    List.append_ne_nil_of_left_ne_nil (Numeral.ofNat_ne_nil _) _
  have decimal := DecimalText.point ⟨nonempty, digits, value⟩ .missing
  rw [List.append_nil, ← text, two] at decimal
  exact decimal

/-- A finite value that was written with two decimals is read as the value nearest to what was
written. -/
theorem readLiteral_fixed {x : Binary64} (finite : x.isFinite = true) :
    readLiteral x.fixed = .ok x.reread := by
  have rounded : Rounded x.isNegative (Decimal.toRat ⟨x.hundredths, -2⟩) x.reread := by
    rw [rounded_iff, reread]
  have size : SizeText x.isNegative (hundredthsText x.hundredths) x.reread :=
    .decimal (decimalText_hundredthsText x.hundredths) rounded
  rw [readLiteral_eq_ok_iff, fixed_of_finite finite]
  generalize x.isNegative = negative at size ⊢
  cases negative with
  | true => exact .minus size
  | false => exact .unsigned size

/-- A NaN is read as a NaN. -/
theorem readLiteral_fixed_of_isNaN {x : Binary64} (notNumber : x.isNaN = true) :
    readLiteral x.fixed = .ok (nan false) := by
  rw [fixed, if_pos notNumber]
  decide

/-- An infinity is read as itself. -/
theorem readLiteral_fixed_of_isInfinite {x : Binary64} (infinite : x.isInfinite = true) :
    readLiteral x.fixed = .ok x := by
  have pattern : x.pattern = infinityPattern := by simpa [isInfinite] using infinite
  have number : x.isNaN = false := by simp [isNaN, pattern]
  have same := ofPattern_pattern x
  rw [pattern] at same
  simp only [fixed, number, infinite, Bool.false_eq_true, if_false, if_true]
  rw [← same]
  cases x.isNegative <;> decide

/-- What has become of a value that was written as a text and read back. -/
inductive Survives (x : Binary64) (text : List Char) (y : Binary64) : Prop
  | finite {d : ℚ} (finite : x.isFinite = true) (denotes : Denotes text d) (trip : RoundTrip x d y)
  | notNumber (before : x.isNaN = true) (after : y.isNaN = true)
  | infinite (infinite : x.isInfinite = true) (same : y = x)

/-- Every value that is written with two decimals is read back. -/
theorem survives_fixed (x : Binary64) :
    ∃ y, readLiteral x.fixed = .ok y ∧ Survives x x.fixed y := by
  obtain less | equal | greater := Nat.lt_trichotomy x.pattern infinityPattern
  · have finite : x.isFinite = true := decide_eq_true less
    exact ⟨_, readLiteral_fixed finite, .finite finite (denotes_fixed finite)
      (roundTrip_reread finite)⟩
  · have infinite : x.isInfinite = true := beq_iff_eq.mpr equal
    exact ⟨_, readLiteral_fixed_of_isInfinite infinite, .infinite infinite rfl⟩
  · have notNumber : x.isNaN = true := decide_eq_true greater
    exact ⟨_, readLiteral_fixed_of_isNaN notNumber, .notNumber notNumber (by decide)⟩

/-- A finite value that is written and read back is written the same way. -/
private theorem fixed_reread {x : Binary64} (finite : x.isFinite = true) :
    x.reread.fixed = x.fixed := by
  have trip := roundTrip_reread finite
  rw [fixed_of_finite trip.nearest.finite, fixed_of_finite finite, hundredths_reread finite,
    trip.sign]

/-- Whatever is read of a written value is written the same way. -/
theorem fixed_of_readLiteral_fixed {x y : Binary64} (read : readLiteral x.fixed = .ok y) :
    y.fixed = x.fixed := by
  obtain less | equal | greater := Nat.lt_trichotomy x.pattern infinityPattern
  · have finite : x.isFinite = true := decide_eq_true less
    rw [readLiteral_fixed finite] at read
    cases read
    exact fixed_reread finite
  · have infinite : x.isInfinite = true := beq_iff_eq.mpr equal
    rw [readLiteral_fixed_of_isInfinite infinite] at read
    cases read
    rfl
  · have notNumber : x.isNaN = true := decide_eq_true greater
    rw [readLiteral_fixed_of_isNaN notNumber] at read
    cases read
    have quiet : (nan false).isNaN = true := by decide
    rw [fixed, fixed, if_pos quiet, if_pos notNumber]

end SensorRelay.Binary64
