import SensorRelay.Binary64.Shortest
import SensorRelay.Proofs.Binary64.Value
import SensorRelay.Proofs.Numeral
import Mathlib.Algebra.Order.Field.Power

/-! # Decimals are rounded to the nearest value

How many digits a decimal has before the point tells where it lies (`units_bounds`). So when the
number of digits alone decides what a decimal becomes, that is its nearest value all the same
(`nearestDecimal_spec`). A decimal that lies half a step or more beyond the largest finite value
becomes infinity, any other one the finite value nearest to it (`rounded_iff`).
-/

namespace SensorRelay.Binary64

/-- How many units a decimal is. -/
def Decimal.units (d : Decimal) : ℚ := d.coefficient * 10 ^ d.exponent * one

section Size

variable {c : Nat} {e : Int}

/-- How far apart the decimals with an exponent are, in units. -/
def spacing (e : Int) : ℚ := 10 ^ e * one

theorem spacing_pos (e : Int) : 0 < spacing e := mul_pos (zpow_pos (by norm_num) e) unit_pos

theorem spacing_mono {e f : Int} (le : e ≤ f) : spacing e ≤ spacing f :=
  mul_le_mul_of_nonneg_right (zpow_le_zpow_right₀ (by norm_num) le) unit_pos.le

theorem units_eq (c : Nat) (e : Int) : Decimal.units ⟨c, e⟩ = c * spacing e := mul_assoc _ _ _

/-- The power of ten that no finite value reaches. -/
def beyondFinite : Nat := 309

/-- The place after the point that stands for less than a unit. -/
def lastPlace : Nat := 324

theorem spacing_lt_one : spacing (-lastPlace) < 1 := by
  have less : one < 10 ^ lastPlace := by decide +kernel
  have less' : (one : ℚ) < (10 ^ lastPlace : Nat) := Nat.cast_lt.mpr less
  rw [Nat.cast_pow, Nat.cast_ofNat] at less'
  rw [spacing, zpow_neg, zpow_natCast, inv_mul_lt_iff₀ (by positivity), mul_one]
  exact less'

/-- Infinity stands where the value after the largest finite one would. -/
theorem unitsOf_infinityPattern_lt : (unitsOf infinityPattern : ℚ) < spacing beyondFinite := by
  have limit : unitsOf infinityPattern < 10 ^ beyondFinite * one := by decide +kernel
  have limit' : (unitsOf infinityPattern : ℚ) < (10 ^ beyondFinite * one : Nat) :=
    Nat.cast_lt.mpr limit
  rwa [Nat.cast_mul, Nat.cast_pow, Nat.cast_ofNat, ← zpow_natCast] at limit'

/-- A finite value is less than the power of ten after the largest that is finite. -/
theorem lt_of_nearest {x : ℚ} {p : Nat} (near : NearestUnits x p) (finite : p < infinityPattern) :
    x < spacing beyondFinite := by
  have above := near.le_middle_above
  have most : unitsOf (p + 1) ≤ unitsOf infinityPattern := unitsOf_strictMono.monotone finite
  have less : unitsOf p < unitsOf (p + 1) := unitsOf_strictMono (Nat.lt_succ_self p)
  have most' : (unitsOf (p + 1) : ℚ) ≤ unitsOf infinityPattern := by exact_mod_cast most
  have less' : (unitsOf p : ℚ) < unitsOf (p + 1) := by exact_mod_cast less
  have limit := unitsOf_infinityPattern_lt
  linarith

/-- Where a decimal lies is told by how many digits it has before the point. -/
theorem units_bounds (positive : 0 < c) (e : Int) :
    spacing ((Numeral.ofNat c).length + e - 1) ≤ Decimal.units ⟨c, e⟩ ∧
      Decimal.units ⟨c, e⟩ < spacing ((Numeral.ofNat c).length + e) := by
  obtain ⟨k, length⟩ := Numeral.exists_length_ofNat c
  obtain ⟨least, less⟩ := Numeral.bounds_of_length positive length
  have least' : (10 ^ k : ℚ) ≤ c := by exact_mod_cast least
  have less' : (c : ℚ) < 10 ^ (k + 1) := by exact_mod_cast less
  have places (n : Nat) : spacing (n + e) = 10 ^ n * spacing e := by
    rw [spacing, spacing, zpow_add₀ (by norm_num), zpow_natCast, mul_assoc]
  have first : ((k + 1 : Nat) : Int) + e - 1 = k + e := by omega
  rw [length, first, places, places, units_eq]
  constructor
  · exact mul_le_mul_of_nonneg_right least' (spacing_pos e).le
  · exact mul_lt_mul_of_pos_right less' (spacing_pos e)

/-- A decimal below a power of ten has no more digits before the point than that has zeros. -/
theorem length_add_le {bound : Nat} (positive : 0 < c)
    (less : Decimal.units ⟨c, e⟩ < spacing bound) :
    (Numeral.ofNat c).length + e ≤ bound := by
  have powers := lt_of_mul_lt_mul_right ((units_bounds positive e).1.trans_lt less) unit_pos.le
  have first := (zpow_lt_zpow_iff_right₀ (show (1 : ℚ) < 10 by norm_num)).mp powers
  omega

end Size

section Reading

variable {c p : Nat} {e : Int}

/-- The value nearest to a decimal, as it is computed with a power of ten that is whole. -/
private theorem exists_nearest_decimal (c : Nat) (e : Int) :
    ∃ q, NearestUnits (Decimal.units ⟨c, e⟩) q ∧
      (if 0 ≤ e then nearestPattern (c * 10 ^ e.toNat) 1
        else nearestPattern c (10 ^ (-e).toNat)) = min q infinityPattern := by
  unfold Decimal.units
  split
  · next nonneg =>
    obtain ⟨q, near, same⟩ := exists_nearest (c * 10 ^ e.toNat) Nat.one_pos
    refine ⟨q, ?_, same⟩
    have power : (e.toNat : Int) = e := Int.toNat_of_nonneg nonneg
    rw [Nat.cast_mul, Nat.cast_pow, Nat.cast_ofNat, Nat.cast_one, div_one, ← zpow_natCast,
      power] at near
    exact near
  · next negative =>
    have positive : 0 < 10 ^ (-e).toNat := Nat.pow_pos (by decide)
    obtain ⟨q, near, same⟩ := exists_nearest c positive
    refine ⟨q, ?_, same⟩
    have power : ((-e).toNat : Int) = -e := Int.toNat_of_nonneg (by omega)
    rw [Nat.cast_pow, Nat.cast_ofNat, ← zpow_natCast, power, zpow_neg, div_inv_eq_mul,
      mul_right_comm] at near
    exact near

/-- A decimal with so few digits is nearer to zero than to the least value. -/
private theorem eq_zero_of_few {q : Nat} (positive : 0 < c)
    (few : (Numeral.ofNat c).length + e < leastDigits)
    (near : NearestUnits (Decimal.units ⟨c, e⟩) q) : q = 0 := by
  have below := (units_bounds positive e).2
  have place : spacing ((Numeral.ofNat c).length + e) ≤ spacing (-lastPlace - 1) := by
    apply spacing_mono
    simp only [leastDigits, lastPlace] at few ⊢
    omega
  have tenth : spacing (-lastPlace - 1) = spacing (-lastPlace) / 10 := by
    rw [spacing, spacing, zpow_sub_one₀ (by norm_num), mul_right_comm, div_eq_mul_inv]
  have unit := spacing_lt_one
  refine near.eq_of_between (fun r below => absurd below (Nat.succ_ne_zero r)) ?_
  rw [show unitsOf 0 = 0 from rfl, show unitsOf (0 + 1) = 1 from rfl, Nat.cast_zero, Nat.cast_one]
  linarith

/-- A decimal with so many digits lies beyond all finite values. -/
private theorem infinityPattern_le_of_many {q : Nat} (positive : 0 < c)
    (many : mostDigits < (Numeral.ofNat c).length + e)
    (near : NearestUnits (Decimal.units ⟨c, e⟩) q) : infinityPattern ≤ q := by
  have place : spacing beyondFinite ≤ spacing ((Numeral.ofNat c).length + e - 1) := by
    apply spacing_mono
    simp only [mostDigits, beyondFinite] at many ⊢
    omega
  exact near.ge_of_ge
    (unitsOf_infinityPattern_lt.le.trans (place.trans (units_bounds positive e).1))

/-- Every decimal is read as its nearest value, or as infinity if that lies beyond the finite ones:
the digits need not be counted for it. -/
theorem nearestDecimal_spec (c : Nat) (e : Int) :
    ∃ q, NearestUnits (Decimal.units ⟨c, e⟩) q ∧ nearestDecimal c e = min q infinityPattern := by
  obtain ⟨q, near, same⟩ := exists_nearest_decimal c e
  refine ⟨q, near, ?_⟩
  unfold nearestDecimal
  dsimp only
  split
  · next few =>
    have zero : q = 0 := by
      obtain rfl | positive := Nat.eq_zero_or_pos c
      · have nothing : Decimal.units ⟨0, e⟩ = (unitsOf 0 : Nat) := by
          rw [units_eq, Nat.cast_zero, zero_mul, show unitsOf 0 = 0 from rfl, Nat.cast_zero]
        rw [nothing] at near
        exact near.eq_of_eq
      · exact eq_zero_of_few positive (few.resolve_left positive.ne') near
    rw [zero, Nat.zero_min]
  · next nonzero =>
    rw [not_or] at nonzero
    split
    · next many =>
      have beyond := infinityPattern_le_of_many (Nat.pos_of_ne_zero nonzero.1) many near
      rw [Nat.min_eq_right beyond]
    · exact same

/-- A decimal that is read as a positive finite value has that as its nearest value. -/
theorem nearest_of_nearestDecimal (positive : 0 < p) (finite : p < infinityPattern)
    (read : nearestDecimal c e = p) : 0 < c ∧ NearestUnits (Decimal.units ⟨c, e⟩) p := by
  obtain ⟨q, near, same⟩ := nearestDecimal_spec c e
  have equal : q = p := by omega
  refine ⟨Nat.pos_of_ne_zero fun zero => ?_, equal ▸ near⟩
  rw [zero, nearestDecimal, if_pos (.inl rfl)] at read
  omega

end Reading

/-- The middle between the largest finite value and the one that would follow it. From here on a
number becomes infinity. -/
def overflowLimit : ℚ := 2 ^ 1024 - 2 ^ 970

/-- The number that a decimal is. -/
def Decimal.toRat (d : Decimal) : ℚ := d.coefficient * 10 ^ d.exponent

/-- What a number becomes that has a sign and a size: the nearest finite value, an even one of two
that are equally near, or infinity. The sign is kept, also that of zero. -/
structure Rounded (negative : Bool) (size : ℚ) (v : Binary64) : Prop where
  sign : v.isNegative = negative
  nearest (inside : size < overflowLimit) : Nearest ((if negative then -1 else 1) * size) v
  overflow (beyond : overflowLimit ≤ size) : v.isInfinite = true

section Rounded

variable {negative : Bool} {x : ℚ} {p : Nat} {v : Binary64}

private theorem succ_largest : infinityPattern - 1 + 1 = infinityPattern := rfl

/-- Half a step lies between the limit and the largest finite value, and half a step beyond it. -/
private theorem middle_eq :
    (unitsOf (infinityPattern - 1) + unitsOf infinityPattern : ℚ) = 2 * (overflowLimit * one) := by
  have next := unitsOf_succ (infinityPattern - 1)
  have wide : step (infinityPattern - 1) = 2 ^ 971 * one := by
    have exponent : (infinityPattern - 1) / 2 ^ 52 - 1 = 971 + 1074 := by decide
    unfold step one
    rw [exponent, ← Nat.pow_add]
  have top := unitsOf_infinityPattern
  rw [succ_largest, wide] at next
  have next' : (unitsOf infinityPattern : ℚ) =
      unitsOf (infinityPattern - 1) + (2 ^ 971 * one : Nat) := by rw [next, Nat.cast_add]
  have top' : (unitsOf infinityPattern : ℚ) = (2 ^ 1024 * one : Nat) := by rw [top]
  rw [Nat.cast_mul, Nat.cast_pow, Nat.cast_ofNat] at next' top'
  have double : (2 : ℚ) ^ 971 = 2 ^ 970 * 2 := pow_succ 2 970
  rw [overflowLimit, sub_mul, mul_sub]
  rw [double] at next'
  generalize (2 : ℚ) ^ 970 = half at next' ⊢
  generalize (2 : ℚ) ^ 1024 = most at top' ⊢
  linarith

/-- What rounds to a value that is not finite lies beyond the limit. -/
theorem infinityPattern_le_iff (near : NearestUnits x p) :
    infinityPattern ≤ p ↔ overflowLimit * one ≤ x := by
  have middle := middle_eq
  constructor
  · intro beyond
    obtain ⟨q, rfl⟩ : ∃ q, p = q + 1 := ⟨p - 1, by simp only [infinityPattern] at beyond; omega⟩
    have below := near.middle_below_le
    have first : (unitsOf (infinityPattern - 1) : ℚ) ≤ unitsOf q := by
      exact_mod_cast unitsOf_strictMono.monotone (Nat.sub_le_of_le_add beyond)
    have second : (unitsOf infinityPattern : ℚ) ≤ unitsOf (q + 1) := by
      exact_mod_cast unitsOf_strictMono.monotone beyond
    linarith
  · intro beyond
    by_contra finite
    rw [Nat.not_le] at finite
    have above := near.le_middle_above
    have first : (unitsOf p : ℚ) ≤ unitsOf (infinityPattern - 1) := by
      exact_mod_cast unitsOf_strictMono.monotone (Nat.le_sub_one_of_lt finite)
    have second : (unitsOf (p + 1) : ℚ) ≤ unitsOf infinityPattern := by
      exact_mod_cast unitsOf_strictMono.monotone finite
    -- Only the limit itself is left, and there the largest finite value is odd.
    have last : p = infinityPattern - 1 := by
      have same : (unitsOf p : ℚ) = unitsOf (infinityPattern - 1) := by linarith
      exact unitsOf_strictMono.injective (Nat.cast_injective same)
    rw [last, succ_largest] at above
    have tie : |(unitsOf infinityPattern : ℚ) - x| = |(unitsOf p : ℚ) - x| := by
      have half : (unitsOf infinityPattern : ℚ) - x = x - unitsOf (infinityPattern - 1) := by
        linarith
      rw [half, last, abs_sub_comm]
    have even := near.even finite.ne' tie
    rw [last] at even
    exact absurd even (by decide)

/-- Decimals are rounded. -/
theorem rounded_iff (d : Decimal) :
    Rounded negative d.toRat v ↔
      v = ofPattern negative (nearestDecimal d.coefficient d.exponent) := by
  obtain ⟨q, near, read⟩ := nearestDecimal_spec d.coefficient d.exponent
  have units : Decimal.units ⟨d.coefficient, d.exponent⟩ = d.toRat * one := rfl
  have positive : 0 ≤ d.toRat * one :=
    mul_nonneg (mul_nonneg (Nat.cast_nonneg _) (zpow_pos (by norm_num) _).le) unit_pos.le
  have size : d.toRat * one / one = d.toRat := mul_div_cancel_right₀ _ unit_pos.ne'
  have limit := infinityPattern_le_iff near
  rw [units, mul_le_mul_iff_left₀ unit_pos] at limit
  rw [units] at near
  rw [read]
  obtain inside | beyond := lt_or_ge d.toRat overflowLimit
  · have finite : q < infinityPattern := Nat.not_le.mp fun more => inside.not_ge (limit.mp more)
    rw [Nat.min_eq_left finite.le]
    constructor
    · intro rounded
      refine Nearest.eq_ofPattern positive near finite ?_ rounded.sign
      rw [size]
      exact rounded.nearest inside
    · rintro rfl
      refine ⟨isNegative_ofPattern (finite.trans infinityPattern_lt), fun _ => ?_,
        fun beyond => absurd inside beyond.not_gt⟩
      have nearest := nearest_ofPattern positive near finite negative
      rwa [size] at nearest
  · rw [Nat.min_eq_right (limit.mpr beyond)]
    constructor
    · intro rounded
      have pattern : v.pattern = infinityPattern := beq_iff_eq.mp (rounded.overflow beyond)
      rw [← rounded.sign, ← pattern, ofPattern_pattern]
    · rintro rfl
      refine ⟨isNegative_ofPattern infinityPattern_lt, fun inside => absurd inside beyond.not_gt,
        fun _ => ?_⟩
      rw [isInfinite, pattern_ofPattern infinityPattern_lt]
      rfl

end Rounded

end SensorRelay.Binary64
