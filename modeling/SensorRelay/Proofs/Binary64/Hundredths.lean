import SensorRelay.Binary64.Rounding
import SensorRelay.Proofs.Binary64.Decimal

/-! # From binary to hundredths and back

A finite value is rounded to hundredths, and a number of hundredths is rounded to a value. The first
step moves a value by half a hundredth at most. Below 2⁴⁶ values are so close to each other that
the second one moves by less than that again; from 2⁴⁶ on they are so far apart that it leads back
to where the first one came from.
-/

namespace SensorRelay.Binary64

private theorem two_pow_mul_one_le {a b : Nat} (less : a ≤ b) : 2 ^ a * one ≤ 2 ^ b * one :=
  Nat.mul_le_mul_right one (Nat.pow_le_pow_right (by decide) less)

private theorem one_eq {a b : Nat} (sum : a + b = 1074) : one = 2 ^ a * 2 ^ b := by
  rw [← Nat.pow_add, sum, one]

/-- A number of hundredths that is nearest to a number, the even one of two that are. -/
structure NearestHundredths (x : ℚ) (n : Int) : Prop where
  nearest (m : Int) : |(n : ℚ) / 100 - x| ≤ |(m : ℚ) / 100 - x|
  even {m : Int} (other : m ≠ n) (tie : |(m : ℚ) / 100 - x| = |(n : ℚ) / 100 - x|) : n % 2 = 0

section Size

variable {size : Nat}

/-- How many units a hundredth of a size is that was rounded to hundredths. -/
private def rounded (size : Nat) : ℚ := (roundQuotient (size * 100) one * one : Nat) / (100 : Nat)

private theorem abs_rounded_sub_le (size : Nat) : |rounded size - size| ≤ one / 200 := by
  have near := abs_roundQuotient_sub_le (a := size * 100) one_pos
  have pos := unit_pos
  have same : rounded size - size =
      (roundQuotient (size * 100) one - ((size * 100 : Nat) : ℚ) / one) * (one / 100) := by
    rw [rounded]
    push_cast
    generalize (roundQuotient (size * 100) one : ℚ) = count
    generalize (one : ℚ) = scale at pos ⊢
    field_simp
  rw [same, abs_mul, abs_of_pos (by positivity : (0 : ℚ) < one / 100)]
  calc _ ≤ 1 / 2 * ((one : ℚ) / 100) := mul_le_mul_of_nonneg_right near (by positivity)
    _ = one / 200 := by ring

private theorem rounded_nonneg (size : Nat) : 0 ≤ rounded size := by
  unfold rounded
  positivity

/-- The pattern that a size is read back as. -/
private def readBack (size : Nat) : Nat := gridPattern (roundQuotient (size * 100) one * one) 100

private theorem nearest_readBack (size : Nat) : NearestUnits (rounded size) (readBack size) :=
  nearest_gridPattern (by decide)

/-- A step of which a mantissa can count up to 2⁴⁶ is the 128th part of one. -/
private theorem one_eq_step : (one : ℚ) = 128 * (2 ^ 1067 : Nat) := by
  rw [one_eq (show 7 + 1067 = 1074 by decide)]
  generalize 2 ^ 1067 = step
  push_cast
  norm_num

/-- Below 2⁴⁶ what a size was rounded to moves by much less than half a hundredth when it is read
back. -/
private theorem abs_readBack_sub_rounded_le (below : size < 2 ^ 46 * one) :
    |(unitsOf (readBack size) : ℚ) - rounded size| ≤ one / 256 := by
  have count : roundQuotient (size * 100) one ≤ 2 ^ 46 * 100 := roundQuotient_le one_pos (by omega)
  have few : roundQuotient (size * 100) one * one ≤ 2 ^ 53 * (100 * 2 ^ 1067) := by
    have same : 2 ^ 46 * 100 * one = 2 ^ 53 * (100 * 2 ^ 1067) := by
      rw [one_eq (show 7 + 1067 = 1074 by decide)]
      generalize 2 ^ 1067 = step
      omega
    rw [← same]
    exact Nat.mul_le_mul_right _ count
  have half : |(unitsOf (readBack size) : ℚ) - rounded size| ≤ (2 ^ 1067 : Nat) / 2 :=
    (nearest_readBack size).abs_sub_le (by decide) few
  have step := one_eq_step
  linarith

/-- Below 2⁴⁶ a size is read back as one that is less than a hundredth away. -/
private theorem abs_readBack_sub_lt (below : size < 2 ^ 46 * one) :
    |(unitsOf (readBack size) : ℚ) - size| < one / 100 := by
  have pos := unit_pos
  have first := abs_rounded_sub_le size
  have second := abs_readBack_sub_rounded_le below
  calc |(unitsOf (readBack size) : ℚ) - size| ≤
        |(unitsOf (readBack size) : ℚ) - rounded size| + |rounded size - size| := abs_sub_le _ _ _
    _ ≤ one / 256 + one / 200 := add_le_add second first
    _ < one / 100 := by linarith

/-- Multiples of a step that are less than a step apart are the same. -/
private theorem eq_of_abs_sub_lt {a b step : Nat} (first : step ∣ a) (second : step ∣ b)
    (near : |(a : ℚ) - b| < step) : a = b := by
  obtain ⟨i, rfl⟩ := first
  obtain ⟨j, rfl⟩ := second
  by_contra different
  have apart : (1 : ℚ) ≤ |(i : ℚ) - j| := by
    have unequal : (i : Int) - j ≠ 0 := by
      intro same
      exact different (by rw [show i = j by omega])
    exact_mod_cast Int.one_le_abs unequal
  have scaled : |((step * i : Nat) : ℚ) - (step * j : Nat)| = step * |(i : ℚ) - j| := by
    push_cast
    rw [← mul_sub, abs_mul, Nat.abs_cast]
  rw [scaled] at near
  have := mul_le_mul_of_nonneg_left apart (Nat.cast_nonneg (α := ℚ) step)
  linarith

/-- From 2⁴⁶ on a value is read back as itself. -/
private theorem readBack_unitsOf {pattern : Nat} (above : 2 ^ 46 * one ≤ unitsOf pattern) :
    readBack (unitsOf pattern) = pattern := by
  have near := nearest_readBack (unitsOf pattern)
  have border : 2 ^ 46 * one = 2 ^ 52 * 2 ^ 1068 := by
    rw [one]
    exact two_pow_mul (by decide)
  have reached : ((2 ^ 46 * one : Nat) : ℚ) ≤ rounded (unitsOf pattern) := by
    have many : 2 ^ 46 * 100 ≤ roundQuotient (unitsOf pattern * 100) one :=
      le_roundQuotient one_pos (by omega)
    have enough := Nat.mul_le_mul_right one many
    rw [Nat.mul_right_comm] at enough
    rw [rounded, le_div_iff₀ (by norm_num)]
    exact_mod_cast enough
  have back : 2 ^ 46 * one ≤ unitsOf (readBack (unitsOf pattern)) := by
    by_contra less
    obtain ⟨other, units⟩ := exists_unitsOf_eq (show 2 ^ 52 ≤ 2 ^ 53 by decide) 1068
    have less' : (unitsOf (readBack (unitsOf pattern)) : ℚ) < (2 ^ 46 * one : Nat) := by
      exact_mod_cast Nat.not_le.mp less
    have far := farther_below less' reached
    rw [border, ← units] at far
    exact far.not_ge (near.nearest other)
  apply unitsOf_strictMono.injective
  rw [border] at above back
  refine eq_of_abs_sub_lt (dvd_unitsOf back) (dvd_unitsOf above) ?_
  have first := abs_rounded_sub_le (unitsOf pattern)
  have second := near.nearest pattern
  rw [abs_sub_comm (unitsOf pattern : ℚ)] at second
  have triangle := abs_sub_le (unitsOf (readBack (unitsOf pattern)) : ℚ)
    (rounded (unitsOf pattern)) (unitsOf pattern)
  have step : (one : ℚ) = 64 * (2 ^ 1068 : Nat) := by
    rw [one_eq (show 6 + 1068 = 1074 by decide)]
    generalize 2 ^ 1068 = step
    push_cast
    norm_num
  have pos := unit_pos
  linarith

/-- A finite size is read back as a finite one. -/
private theorem readBack_lt {pattern : Nat} (finite : pattern < infinityPattern) :
    readBack (unitsOf pattern) < infinityPattern := by
  obtain below | above := Nat.lt_or_ge (unitsOf pattern) (2 ^ 46 * one)
  · have pos := unit_pos
    have near := (abs_lt.mp (abs_readBack_sub_lt below)).2
    have below' : (unitsOf pattern : ℚ) < (2 ^ 46 * one : Nat) := Nat.cast_lt.mpr below
    have small : (unitsOf (readBack (unitsOf pattern)) : ℚ) < ((2 ^ 46 + 1) * one : Nat) := by
      rw [Nat.cast_mul] at below' ⊢
      push_cast at below' ⊢
      linarith
    rw [← unitsOf_strictMono.lt_iff_lt, unitsOf_infinityPattern]
    have few : (2 ^ 46 + 1) * one ≤ 2 ^ 47 * one := Nat.mul_le_mul_right one (by decide)
    exact (Nat.cast_lt.mp small).trans_le (few.trans (two_pow_mul_one_le (by decide)))
  · rw [readBack_unitsOf above]
    exact finite

/-- Read back, a size is rounded to the same number of hundredths. -/
private theorem roundQuotient_readBack (pattern : Nat) :
    roundQuotient (unitsOf (readBack (unitsOf pattern)) * 100) one =
      roundQuotient (unitsOf pattern * 100) one := by
  obtain below | above := Nat.lt_or_ge (unitsOf pattern) (2 ^ 46 * one)
  · have pos := unit_pos
    have near := abs_readBack_sub_rounded_le below
    refine roundQuotient_eq_of_abs_sub_lt one_pos ?_
    -- In hundredths the distance is a hundred times as large, which is still less than a half.
    have scaled : (roundQuotient (unitsOf pattern * 100) one : ℚ) -
        ((unitsOf (readBack (unitsOf pattern)) * 100 : Nat) : ℚ) / one =
        (rounded (unitsOf pattern) - unitsOf (readBack (unitsOf pattern))) * (100 / one) := by
      rw [rounded]
      push_cast
      generalize (roundQuotient (unitsOf pattern * 100) one : ℚ) = count
      generalize (one : ℚ) = unit at pos ⊢
      field_simp
    have scale : (0 : ℚ) < 100 / one := div_pos (by norm_num) pos
    rw [scaled, abs_mul, abs_sub_comm, abs_of_pos scale]
    calc |(unitsOf (readBack (unitsOf pattern)) : ℚ) - rounded (unitsOf pattern)| * (100 / one)
        ≤ one / 256 * (100 / one) := mul_le_mul_of_nonneg_right near scale.le
      _ = 100 / 256 := by
        generalize (one : ℚ) = unit at pos ⊢
        field_simp
      _ < 1 / 2 := by norm_num
  · rw [readBack_unitsOf above]

end Size

variable {x : Binary64}

/-- The number of hundredths that a value is written as. -/
def decimal (x : Binary64) : ℚ := (if x.isNegative then -1 else 1) * (x.hundredths / 100)

/-- The value that is nearest to that number. -/
def reread (x : Binary64) : Binary64 :=
  ofPattern x.isNegative (nearestDecimal x.hundredths (-2))

/-- What a value comes to that is written as the number `d` and read back as `y`. -/
structure RoundTrip (x : Binary64) (d : ℚ) (y : Binary64) : Prop where
  decimal : ∃ n : Int, d = n / 100 ∧ NearestHundredths x.toRat n
  near : |d - x.toRat| ≤ 1 / 200
  nearest : Nearest d y
  sign : y.isNegative = x.isNegative
  close : |y.toRat - x.toRat| < 1 / 100
  same : 2 ^ 46 ≤ |x.toRat| → y = x

/-- The pattern that a finite value is read back as. -/
private theorem reread_eq (finite : x.isFinite = true) :
    x.reread = ofPattern x.isNegative (readBack x.units) ∧ readBack x.units < infinityPattern := by
  have less : readBack x.units < infinityPattern :=
    readBack_lt (by simpa [isFinite] using finite)
  obtain ⟨q, near, read⟩ := nearestDecimal_spec x.hundredths (-2)
  have hundredth : (10 : ℚ) ^ (-2 : Int) = 1 / 100 := by norm_num
  have size : Decimal.units ⟨x.hundredths, -2⟩ = rounded x.units := by
    rw [Decimal.units, hundredth, hundredths, rounded, Nat.cast_mul, Nat.cast_ofNat,
      mul_one_div, div_mul_eq_mul_div]
  rw [size] at near
  rw [reread, read, near.unique (nearest_readBack x.units), Nat.min_eq_left less.le]
  exact ⟨rfl, less⟩

/-- Rounding to hundredths is rounding, whatever the sign. -/
private theorem nearestHundredths_of_size {size : Nat} (negative : Bool) :
    NearestHundredths ((if negative then -1 else 1) * ((size : ℚ) / one))
      ((if negative then -1 else 1) * roundQuotient (size * 100) one) := by
  -- A distance between numbers of hundredths is one between whole numbers.
  have scaled (k : ℚ) :
      |k / 100 - size / one| = |k - ((size * 100 : Nat) : ℚ) / one| / 100 := by
    have hundredth : (0 : ℚ) < 100 := by norm_num
    rw [← abs_of_pos hundredth, ← abs_div, abs_of_pos hundredth]
    congr 1
    push_cast
    ring
  have mirror (k : ℚ) : |k / 100 - -1 * (size / one)| = |-k / 100 - (size : ℚ) / one| := by
    rw [← abs_neg]
    congr 1
    ring
  have nearest := roundQuotient_nearest (a := size * 100) one_pos
  cases negative with
  | false =>
    simp only [Bool.false_eq_true, if_false, one_mul]
    constructor
    · intro m
      rw [scaled, scaled]
      exact div_le_div_of_nonneg_right (by exact_mod_cast nearest m) (by norm_num)
    · intro m other tie
      rw [scaled, scaled, div_left_inj' (by norm_num)] at tie
      have even := roundQuotient_even_of_tie one_pos other (by exact_mod_cast tie)
      exact_mod_cast even
  | true =>
    simp only [if_true]
    constructor
    · intro m
      rw [mirror, mirror, scaled, scaled]
      push_cast
      rw [neg_one_mul, neg_neg]
      exact div_le_div_of_nonneg_right (by exact_mod_cast nearest (-m)) (by norm_num)
    · intro m other tie
      rw [mirror, mirror, scaled, scaled, div_left_inj' (by norm_num)] at tie
      push_cast at tie
      rw [neg_one_mul, neg_neg] at tie
      have different : -m ≠ roundQuotient (size * 100) one := by omega
      have even := roundQuotient_even_of_tie one_pos different (by exact_mod_cast tie)
      omega

private theorem decimal_eq (x : Binary64) :
    x.decimal = (if x.isNegative then -1 else 1) * (rounded x.units / one) := by
  have pos := unit_pos
  have same : (x.hundredths : ℚ) / 100 = rounded x.units / one := by
    rw [hundredths, rounded, Nat.cast_mul, Nat.cast_ofNat, div_right_comm,
      mul_div_cancel_right₀ _ pos.ne']
  rw [decimal, same]

/-- Numbers of one sign are as far apart as their sizes. -/
private theorem abs_sub_signed (negative : Bool) (u v : ℚ) :
    |(if negative then -1 else 1) * (u / one) - (if negative then -1 else 1) * (v / one)| =
      |u - v| / one := by
  rw [← mul_sub, abs_mul, ← sub_div, abs_div, abs_of_pos unit_pos]
  cases negative <;> simp only [Bool.false_eq_true, if_false, if_true, abs_neg, abs_one, one_mul]

/-- A finite value that is written with two decimals and read back. -/
theorem roundTrip_reread (finite : x.isFinite = true) : RoundTrip x x.decimal x.reread := by
  obtain ⟨same, less⟩ := reread_eq finite
  have small : readBack x.units < 2 ^ 63 := less.trans infinityPattern_lt
  have pos := unit_pos
  have close : |x.reread.toRat - x.toRat| = |(unitsOf (readBack x.units) : ℚ) - x.units| / one := by
    rw [same, toRat_ofPattern small, toRat]
    exact abs_sub_signed x.isNegative _ _
  constructor
  case decimal =>
    refine ⟨(if x.isNegative then -1 else 1) * x.hundredths, ?_,
      nearestHundredths_of_size x.isNegative⟩
    rw [decimal]
    cases x.isNegative <;> push_cast <;> ring
  case near =>
    rw [decimal_eq, toRat, abs_sub_signed, div_le_iff₀ pos]
    calc |rounded x.units - x.units| ≤ one / 200 := abs_rounded_sub_le x.units
      _ = 1 / 200 * one := by ring
  case nearest =>
    rw [same, decimal_eq]
    exact nearest_ofPattern (rounded_nonneg x.units) (nearest_readBack x.units) less x.isNegative
  case sign =>
    rw [same]
    exact isNegative_ofPattern small
  case close =>
    rw [close, div_lt_iff₀ pos]
    obtain below | above := Nat.lt_or_ge x.units (2 ^ 46 * one)
    · have near := abs_readBack_sub_lt below
      linarith
    · rw [units, readBack_unitsOf above, sub_self, abs_zero]
      linarith
  case same =>
    intro large
    have above : 2 ^ 46 * one ≤ x.units := by
      have size : |x.toRat| = x.units / one := by
        rw [toRat, abs_mul, abs_div, Nat.abs_cast, Nat.abs_cast]
        cases x.isNegative <;>
          simp only [Bool.false_eq_true, if_false, if_true, abs_neg, abs_one, one_mul]
      rw [size, le_div_iff₀ pos] at large
      have cast : ((2 ^ 46 * one : Nat) : ℚ) = 2 ^ 46 * one := by
        rw [Nat.cast_mul, Nat.cast_pow, Nat.cast_ofNat]
      rw [← cast] at large
      exact Nat.cast_le.mp large
    rw [same, units, readBack_unitsOf above]
    exact ofPattern_pattern x

/-- A finite value that is written with two decimals and read back is written with the same ones. -/
theorem hundredths_reread (finite : x.isFinite = true) :
    x.reread.hundredths = x.hundredths := by
  obtain ⟨same, less⟩ := reread_eq finite
  rw [hundredths, units, same, pattern_ofPattern (less.trans infinityPattern_lt)]
  exact roundQuotient_readBack x.pattern

end SensorRelay.Binary64
