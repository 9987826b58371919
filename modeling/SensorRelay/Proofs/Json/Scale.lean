import SensorRelay.Json.Number
import SensorRelay.Proofs.Binary64.Shortest

/-! # Scaling by a power of ten

A decimal is scaled in two, three or four rounded steps: its digits and the power of ten become
values, and these are multiplied or divided, at the lowest end twice. Each step changes the ratio to
the exact number by a factor close to one, so the result is few steps away from the nearest value
(`scale_near`). Nothing but the last step rounds when a mantissa can count the digits and the power.
-/

namespace SensorRelay.Json

open Binary64

private theorem normal_le_one : 2 ^ 52 ≤ one := by decide +kernel

/-- The largest finite value exceeds the largest power of ten that is scaled by. -/
theorem largestPower_le : 10 ^ largestPower * one ≤ unitsOf (infinityPattern - 1) := by
  decide +kernel

section Whole

variable {n k : Nat}

theorem nearest_nearestNat (few : n ≤ 10 ^ largestPower) :
    NearestUnits ((n : ℚ) * one) (nearestNat n) ∧ nearestNat n < infinityPattern := by
  obtain ⟨p, near, same⟩ := exists_nearest n Nat.one_pos
  rw [Nat.cast_one, div_one] at near
  have bound : n * one ≤ unitsOf (infinityPattern - 1) :=
    (Nat.mul_le_mul_right one few).trans largestPower_le
  have small : p ≤ infinityPattern - 1 := near.le_of_le (by exact_mod_cast bound)
  have less : p < infinityPattern := Nat.lt_of_le_of_lt small (by decide)
  rw [nearestNat, same, Nat.min_eq_left less.le]
  exact ⟨near, less⟩

theorem within_nearestNat (positive : 0 < n) (few : n ≤ 10 ^ largestPower) :
    Within rounding (unitsOf (nearestNat n)) ((n : ℚ) * one) := by
  refine (nearest_nearestNat few).1.within ?_
  have normal : 2 ^ 52 ≤ n * one := normal_le_one.trans (Nat.le_mul_of_pos_left one positive)
  exact_mod_cast normal

/-- Whole numbers that a mantissa can count, up to a power of two, are values. -/
theorem unitsOf_nearestNat {count power : Nat} (few : count ≤ 2 ^ 53)
    (small : count * 2 ^ power ≤ 10 ^ largestPower) :
    unitsOf (nearestNat (count * 2 ^ power)) = count * 2 ^ power * one := by
  obtain ⟨p, units⟩ := exists_unitsOf_eq few (power + 1074)
  rw [Nat.pow_add, ← Nat.mul_assoc] at units
  change unitsOf p = count * 2 ^ power * one at units
  have near := (nearest_nearestNat small).1
  have same : ((count * 2 ^ power : Nat) : ℚ) * one = unitsOf p := by
    rw [units, Nat.cast_mul _ one]
  rw [same] at near
  rw [near.eq_of_eq, units]

/-- Powers of ten that a mantissa can count once all factors two are left out. -/
theorem unitsOf_powerOfTen (small : k ≤ 22) : unitsOf (powerOfTen k) = 10 ^ k * one := by
  have split : 10 ^ k = 5 ^ k * 2 ^ k := by rw [← Nat.mul_pow]
  have few : 5 ^ k ≤ 2 ^ 53 := (Nat.pow_le_pow_right (by decide) small).trans (by decide)
  have least : 10 ^ k ≤ 10 ^ largestPower :=
    Nat.pow_le_pow_right (by decide) (small.trans (by decide))
  rw [split] at least
  rw [powerOfTen, split]
  exact unitsOf_nearestNat few least

theorem within_powerOfTen (few : k ≤ largestPower) :
    Within rounding (unitsOf (powerOfTen k)) ((10 : ℚ) ^ k * one) := by
  have near := within_nearestNat (Nat.pow_pos (n := k) (show 0 < 10 by decide))
    (Nat.pow_le_pow_right (show 0 < 10 by decide) few)
  rw [Nat.cast_pow, Nat.cast_ofNat] at near
  exact near

theorem one_le_powerOfTen (few : k ≤ largestPower) : one ≤ unitsOf (powerOfTen k) := by
  obtain ⟨p, units⟩ := exists_unitsOf_eq (show 1 ≤ 2 ^ 53 by decide) 1074
  rw [Nat.one_mul] at units
  change unitsOf p = one at units
  have least : one ≤ 10 ^ k * one := Nat.le_mul_of_pos_left one (Nat.pow_pos (by decide))
  have near := (nearest_nearestNat (Nat.pow_le_pow_right (show 0 < 10 by decide) few)).1
  have le : p ≤ powerOfTen k := near.ge_of_ge (by rw [units]; exact_mod_cast least)
  rw [← units]
  exact unitsOf_strictMono.monotone le

/-- The factor by which the largest power of ten is rounded, at most. -/
def largestRounding : ℚ := 1 + 1 / 2 ^ 54

private theorem within_of_le {a b : Nat} (above : a * 2 ^ 54 ≤ (2 ^ 54 + 1) * b)
    (below : b * 2 ^ 54 ≤ (2 ^ 54 + 1) * a) : Within largestRounding a b := by
  have above' : (a * 2 ^ 54 : ℚ) ≤ (2 ^ 54 + 1) * b := by exact_mod_cast above
  have below' : (b * 2 ^ 54 : ℚ) ≤ (2 ^ 54 + 1) * a := by exact_mod_cast below
  constructor
  · rw [largestRounding]
    linarith
  · rw [largestRounding]
    linarith

theorem within_largestPower :
    Within largestRounding (unitsOf (powerOfTen largestPower)) ((10 : ℚ) ^ largestPower * one) := by
  have near : Within largestRounding (unitsOf (powerOfTen largestPower))
      (10 ^ largestPower * one : Nat) :=
    within_of_le (by decide +kernel) (by decide +kernel)
  rw [Nat.cast_mul, Nat.cast_pow, Nat.cast_ofNat] at near
  exact near

end Whole

/-- A product of values is rounded to the nearest one. -/
theorem nearest_timesPattern (s t : Nat) :
    ∃ q, NearestUnits ((unitsOf s : ℚ) * unitsOf t / one) q ∧
      timesPattern s t = min q infinityPattern := by
  obtain ⟨q, near, same⟩ := exists_nearest (unitsOf s * unitsOf t)
    (Nat.mul_pos Binary64.one_pos Binary64.one_pos)
  refine ⟨q, ?_, same⟩
  have ratio : ((unitsOf s * unitsOf t : Nat) : ℚ) * one / (one * one : Nat) =
      (unitsOf s : ℚ) * unitsOf t / one := by
    rw [Nat.cast_mul, Nat.cast_mul]
    exact mul_div_mul_right _ _ unit_pos.ne'
  rw [ratio] at near
  exact near

/-- A quotient of values is rounded to the nearest one, which is finite if the divisor is not less
than one. -/
theorem nearest_overPattern {s t : Nat} (finite : s < infinityPattern)
    (large : one ≤ unitsOf t) :
    NearestUnits ((unitsOf s : ℚ) * one / unitsOf t) (overPattern s t) ∧
      overPattern s t ≤ s := by
  have positive : 0 < unitsOf t := Nat.lt_of_lt_of_le Binary64.one_pos large
  obtain ⟨q, near, same⟩ := exists_nearest (unitsOf s) positive
  have few : q ≤ s := by
    apply near.le_of_le
    have positive' : (0 : ℚ) < unitsOf t := by exact_mod_cast positive
    have large' : (one : ℚ) ≤ unitsOf t := by exact_mod_cast large
    rw [div_le_iff₀ positive']
    exact mul_le_mul_of_nonneg_left large' (Nat.cast_nonneg _)
  rw [overPattern, same, Nat.min_eq_left (few.trans finite.le)]
  exact ⟨near, few⟩

section Scale

variable {s k : Nat}

theorem scale_zero (e : Int) : scale 0 e = .ok 0 := by rw [scale, if_pos rfl]

theorem scale_up (nonzero : s ≠ 0) (few : k ≤ largestPower)
    (fits : timesPattern s (powerOfTen k) ≠ infinityPattern) :
    scale s k = .ok (timesPattern s (powerOfTen k)) := by
  have inside : ¬ ((largestPower : Int) < k ∨
      timesPattern s (powerOfTen k) = infinityPattern) := by
    rintro (beyond | infinite)
    · omega
    · exact fits infinite
  rw [scale, if_neg nonzero, if_pos (Int.natCast_nonneg k)]
  simp only [Int.toNat_natCast, if_neg inside]

theorem scale_down (nonzero : s ≠ 0) (positive : 0 < k) (few : k ≤ largestPower) :
    scale s (-k) = .ok (overPattern s (powerOfTen k)) := by
  have negative : ¬ (0 : Int) ≤ -k := by omega
  have inside : ¬ (-k : Int) < -largestPower := by omega
  rw [scale, if_neg nonzero, if_neg negative, if_neg inside, Int.natAbs_neg, Int.natAbs_natCast]

theorem scale_far (nonzero : s ≠ 0) (positive : 0 < k) :
    scale s (-(largestPower + k : Nat)) =
      scale (overPattern s (powerOfTen largestPower)) (-k) := by
  have negative : ¬ (0 : Int) ≤ -(largestPower + k : Nat) := by omega
  have beyond : -((largestPower + k : Nat) : Int) < -largestPower := by omega
  have rest : -((largestPower + k : Nat) : Int) + largestPower = -k := by omega
  rw [scale, if_neg nonzero, if_neg negative, if_pos beyond, rest]

end Scale

section Written

variable {c k p : Nat}

theorem one_le_rounding : 1 ≤ rounding := by norm_num [rounding]

theorem one_le_largestRounding : 1 ≤ largestRounding := by norm_num [largestRounding]

theorem rounding_nonneg : 0 ≤ rounding := zero_le_one.trans one_le_rounding

theorem nearestNat_pos (positive : 0 < c) (few : c ≤ 10 ^ largestPower) : 0 < nearestNat c := by
  refine (nearest_nearestNat few).1.ge_of_ge ?_
  have least : unitsOf 1 ≤ c * one := Nat.mul_pos positive Binary64.one_pos
  exact_mod_cast least

theorem unitsOf_nearestNat_of_le (few : c ≤ 2 ^ 53) : unitsOf (nearestNat c) = c * one := by
  have small : c * 2 ^ 0 ≤ 10 ^ largestPower := by
    rw [Nat.pow_zero, Nat.mul_one]
    exact few.trans (by decide +kernel)
  have units := unitsOf_nearestNat few small
  rw [Nat.pow_zero, Nat.mul_one] at units
  exact units

/-- Rounding both factors of a product, or both parts of a quotient, before the result is rounded
moves it by two steps at most. -/
private theorem two_apart {x y : ℚ} {q : Nat} (near : NearestUnits x p) (nearest : NearestUnits y q)
    (ratio : Within (rounding * rounding) y x) : q ≤ p + 2 ∧ p ≤ q + 2 :=
  near.few_apart 2 nearest ratio (by norm_num [rounding]) (by norm_num [rounding])

/-- Scaling up rounds three times. -/
theorem scale_up_near (positive : 0 < c) (few : c ≤ 10 ^ largestPower) (least : k ≤ largestPower)
    (near : NearestUnits ((c : ℚ) * 10 ^ k * one) p) (room : p + 2 < infinityPattern) :
    ∃ q, scale (nearestNat c) k = .ok q ∧ q < infinityPattern ∧ q ≤ p + 2 ∧ p ≤ q + 2 ∧
      (c ≤ 2 ^ 53 → k ≤ 22 → q = p) := by
  obtain ⟨q, nearest, product⟩ := nearest_timesPattern (nearestNat c) (powerOfTen k)
  have unit := unit_pos.ne'
  have size : (0 : ℚ) ≤ (c : ℚ) * one := mul_nonneg (Nat.cast_nonneg _) unit_pos.le
  have ratio := ((within_nearestNat positive few).mul rounding_nonneg rounding_nonneg
    (within_powerOfTen least) size (Nat.cast_nonneg _)).mul_right (inv_nonneg.mpr unit_pos.le)
  have same : (c : ℚ) * one * (10 ^ k * one) * (one : ℚ)⁻¹ = c * 10 ^ k * one := by field_simp
  rw [same, ← div_eq_mul_inv] at ratio
  obtain ⟨above, below⟩ := two_apart near nearest ratio
  have finite : q < infinityPattern := Nat.lt_of_le_of_lt above room
  rw [Nat.min_eq_left finite.le] at product
  refine ⟨q, ?_, finite, above, below, fun short low => ?_⟩
  · rw [← product]
    exact scale_up (nearestNat_pos positive few).ne' least (by rw [product]; exact finite.ne)
  · rw [unitsOf_nearestNat_of_le short, unitsOf_powerOfTen low] at nearest
    have cancelled : ((c * one : Nat) : ℚ) * (10 ^ k * one : Nat) / one = c * 10 ^ k * one := by
      push_cast
      field_simp
    rw [cancelled] at nearest
    exact nearest.unique near

/-- Digits and a power of ten that are close to values have a quotient that is. -/
private theorem within_quotient {factor : ℚ} (positive : 0 < c) (few : c ≤ 10 ^ largestPower)
    (least : k ≤ largestPower) (nonneg : 0 ≤ factor)
    (close : Within factor (unitsOf (powerOfTen k)) ((10 : ℚ) ^ k * one)) :
    Within (rounding * factor) ((unitsOf (nearestNat c) : ℚ) * one / unitsOf (powerOfTen k))
      (c / 10 ^ k * one) := by
  have unit := unit_pos.ne'
  have power : (0 : ℚ) < 10 ^ k * one := mul_pos (by positivity) unit_pos
  have divisor : (0 : ℚ) < unitsOf (powerOfTen k) := by
    exact_mod_cast Nat.lt_of_lt_of_le Binary64.one_pos (one_le_powerOfTen least)
  have size : (0 : ℚ) ≤ (c : ℚ) * one * one :=
    mul_nonneg (mul_nonneg (Nat.cast_nonneg _) unit_pos.le) unit_pos.le
  have ratio := ((within_nearestNat positive few).mul_right unit_pos.le).div rounding_nonneg
    nonneg close size divisor power
  have same : (c : ℚ) * one * one / (10 ^ k * one) = c / 10 ^ k * one := by field_simp
  rw [same] at ratio
  exact ratio

/-- Scaling down at once rounds three times, too. -/
theorem scale_down_near (positive : 0 < c) (few : c ≤ 10 ^ largestPower) (down : 0 < k)
    (least : k ≤ largestPower) (near : NearestUnits ((c : ℚ) / 10 ^ k * one) p) :
    ∃ q, scale (nearestNat c) (-k) = .ok q ∧ q < infinityPattern ∧ q ≤ p + 2 ∧ p ≤ q + 2 ∧
      (c ≤ 2 ^ 53 → k ≤ 22 → q = p) := by
  have finite := (nearest_nearestNat few).2
  obtain ⟨nearest, small⟩ := nearest_overPattern finite (one_le_powerOfTen least)
  have unit := unit_pos.ne'
  have ratio := within_quotient positive few least rounding_nonneg (within_powerOfTen least)
  obtain ⟨above, below⟩ := two_apart near nearest ratio
  refine ⟨_, scale_down (nearestNat_pos positive few).ne' down least, small.trans_lt finite, above,
    below, fun short low => ?_⟩
  rw [unitsOf_nearestNat_of_le short, unitsOf_powerOfTen low] at nearest
  have quotient : ((c * one : Nat) : ℚ) * one / (10 ^ k * one : Nat) = c / 10 ^ k * one := by
    push_cast
    field_simp
  rw [quotient] at nearest
  exact nearest.unique near

/-- The first of two steps down divides by the largest power of ten. -/
private theorem first_step (positive : 0 < c) (few : c ≤ 10 ^ largestPower) :
    ∃ z, NearestUnits z (overPattern (nearestNat c) (powerOfTen largestPower)) ∧
      Within (rounding * largestRounding) z ((c : ℚ) / 10 ^ largestPower * one) ∧
      overPattern (nearestNat c) (powerOfTen largestPower) < infinityPattern := by
  have finite := (nearest_nearestNat few).2
  have nonneg : 0 ≤ largestRounding := zero_le_one.trans one_le_largestRounding
  obtain ⟨nearest, small⟩ :=
    nearest_overPattern finite (one_le_powerOfTen (Nat.le_refl largestPower))
  exact ⟨_, nearest, within_quotient positive few (Nat.le_refl _) nonneg within_largestPower,
    small.trans_lt finite⟩

/-- What the first step leaves is exact up to a factor if it is large, and up to half a unit if it
is small. The second step divides that by ten at least. -/
private theorem second_step {z w : ℚ} {y q : Nat} (first : NearestUnits z y) (nonneg : 0 ≤ z)
    (ratio : Within (rounding * largestRounding) z w) (down : 0 < k)
    (second : NearestUnits (unitsOf y / 10 ^ k) q) (near : NearestUnits (w / 10 ^ k) p) :
    q ≤ p + 3 ∧ p ≤ q + 3 := by
  have power : (0 : ℚ) < 10 ^ k := by positivity
  have least : 1 ≤ rounding * largestRounding := by norm_num [rounding, largestRounding]
  -- A small result of the first step has lost its ratio, but is only half a unit off.
  obtain large | small := le_total ((2 : ℚ) ^ 52) z
  · have whole := ((first.within large).trans rounding_nonneg (zero_le_one.trans least)
      ratio).mul_right (inv_nonneg.mpr power.le)
    rw [← div_eq_mul_inv, ← div_eq_mul_inv] at whole
    exact near.few_apart 3 second whole (by norm_num [rounding, largestRounding])
      (by norm_num [rounding, largestRounding])
  · have half := first.abs_sub_le_half nonneg small
    have rest := ratio.abs_sub_le least nonneg
    have bound : (rounding * largestRounding - 1) * (rounding * largestRounding * z) < 1 := by
      have more : (rounding * largestRounding - 1) * (rounding * largestRounding) * z ≤
          (rounding * largestRounding - 1) * (rounding * largestRounding) * 2 ^ 52 :=
        mul_le_mul_of_nonneg_left small
          (mul_nonneg (sub_nonneg.mpr least) (zero_le_one.trans least))
      have less : (rounding * largestRounding - 1) * (rounding * largestRounding) * 2 ^ 52 < 1 := by
        norm_num [rounding, largestRounding]
      linarith
    have ten : (10 : ℚ) ≤ 10 ^ k := le_self_pow₀ (by norm_num) down.ne'
    have close : |(unitsOf y : ℚ) / 10 ^ k - w / 10 ^ k| < 1 := by
      rw [← sub_div, abs_div, abs_of_pos power, div_lt_one power]
      have triangle := abs_sub_le (unitsOf y : ℚ) z w
      linarith
    have one_step := near.one_apart second close
    omega

/-- Even one, divided by the largest power of ten, is several units. -/
private theorem two_le_rest (positive : 0 < c) : (2 : ℚ) ≤ c / 10 ^ largestPower * one := by
  have least : 2 * 10 ^ largestPower ≤ one := by decide +kernel
  have many : 2 * 10 ^ largestPower ≤ c * one :=
    Nat.le_trans least (Nat.le_mul_of_pos_left one positive)
  have many' : ((2 * 10 ^ largestPower : Nat) : ℚ) ≤ (c * one : Nat) := Nat.cast_le.mpr many
  rw [Nat.cast_mul, Nat.cast_pow, Nat.cast_mul, Nat.cast_ofNat, Nat.cast_ofNat] at many'
  rw [div_mul_eq_mul_div, le_div_iff₀ (by positivity)]
  exact many'

/-- Scaling down in two steps rounds four times, but the largest power of ten is so close to a value
that it stays within three steps. -/
theorem scale_far_near (positive : 0 < c) (few : c ≤ 10 ^ largestPower) (down : 0 < k)
    (low : k ≤ 22) (near : NearestUnits ((c : ℚ) / 10 ^ (largestPower + k) * one) p) :
    ∃ q, scale (nearestNat c) (-(largestPower + k : Nat)) = .ok q ∧ q < infinityPattern ∧
      q ≤ p + 3 ∧ p ≤ q + 3 := by
  obtain ⟨z, first, ratio, finite⟩ := first_step positive few
  have unit := unit_pos.ne'
  have least : (1 : ℚ) ≤ z := by
    have two : (2 : ℚ) ≤ c / 10 ^ largestPower * one := two_le_rest positive
    have le := ratio.ge
    have factor : rounding * largestRounding < 2 := by norm_num [rounding, largestRounding]
    have nonneg : 0 ≤ rounding * largestRounding :=
      mul_nonneg rounding_nonneg (zero_le_one.trans one_le_largestRounding)
    by_contra less
    have := mul_le_of_le_one_right nonneg (not_le.mp less).le
    linarith
  have nonzero : 0 < overPattern (nearestNat c) (powerOfTen largestPower) :=
    first.ge_of_ge (by rw [show unitsOf 1 = 1 from rfl]; exact_mod_cast least)
  have inside : k ≤ largestPower := low.trans (by decide)
  obtain ⟨second, small⟩ := nearest_overPattern finite (one_le_powerOfTen inside)
  have quotient (u : ℚ) : u * one / (10 ^ k * one : Nat) = u / 10 ^ k := by
    push_cast
    field_simp
  rw [unitsOf_powerOfTen low, quotient] at second
  have split : (c : ℚ) / 10 ^ (largestPower + k) * one =
      c / 10 ^ largestPower * one / 10 ^ k := by
    rw [pow_add]
    field_simp
  rw [split] at near
  obtain ⟨above, below⟩ := second_step first (zero_le_one.trans least) ratio down second near
  refine ⟨_, ?_, small.trans_lt finite, above, below⟩
  rw [scale_far (nearestNat_pos positive few).ne' down]
  exact scale_down nonzero.ne' down inside

/-- A decimal that is scaled as it is read misses its nearest value by three steps at most, and hits
it when a mantissa can count both its digits and the power of ten. -/
theorem scale_near {d : Decimal} (positive : 0 < d.coefficient)
    (few : d.coefficient ≤ 10 ^ largestPower) (low : -(lastPlace : Int) ≤ d.exponent)
    (high : d.exponent < beyondFinite) (near : NearestUnits d.units p)
    (room : p + 2 < infinityPattern) :
    ∃ q, scale (nearestNat d.coefficient) d.exponent = .ok q ∧ q < infinityPattern ∧ q ≤ p + 3 ∧
      p ≤ q + 3 ∧ (d.coefficient ≤ 2 ^ 53 → d.exponent.natAbs ≤ 22 → q = p) := by
  obtain ⟨c, e⟩ := d
  dsimp only [Decimal.units, lastPlace, beyondFinite] at *
  obtain ⟨k, rfl⟩ | ⟨k, down, rfl⟩ : (∃ k : Nat, e = k) ∨ ∃ k : Nat, 0 < k ∧ e = -k := by
    obtain nonneg | negative := le_or_gt 0 e
    · exact .inl ⟨e.toNat, by omega⟩
    · exact .inr ⟨e.natAbs, by omega, by omega⟩
  · rw [zpow_natCast] at near
    have inside : k ≤ largestPower := by
      simp only [largestPower]
      omega
    obtain ⟨q, scaled, finite, above, below, hits⟩ :=
      scale_up_near positive few inside near room
    exact ⟨q, scaled, finite, by omega, by omega, hits⟩
  · rw [zpow_neg, zpow_natCast, ← div_eq_mul_inv] at near
    obtain inside | beyond := le_or_gt k largestPower
    · obtain ⟨q, scaled, finite, above, below, hits⟩ :=
        scale_down_near positive few down inside near
      rw [Int.natAbs_neg]
      exact ⟨q, scaled, finite, by omega, by omega, hits⟩
    · obtain ⟨j, rfl⟩ := Nat.exists_eq_add_of_lt beyond
      rw [Nat.add_assoc] at near low ⊢
      have places : j + 1 ≤ 22 := by
        simp only [largestPower] at low
        omega
      obtain ⟨q, scaled, finite, above, below⟩ :=
        scale_far_near positive few (Nat.succ_pos j) places near
      refine ⟨q, scaled, finite, above, below, fun _ small => ?_⟩
      simp only [largestPower] at small
      omega

end Written

end SensorRelay.Json
