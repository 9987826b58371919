import SensorRelay.Proofs.Binary64.Neighbours

/-! # Values as numbers

A finite value is a number, made of its sign and its size. Whatever is nearest to a size is, with
the sign of a number of that size, nearest to that number (`nearest_ofPattern`), and no other value
of that sign is (`Nearest.eq_ofPattern`).
-/

namespace SensorRelay.Binary64

theorem one_pos : 0 < one := by
  unfold one
  positivity

theorem two_pow_mul {a b c d : Nat} (sum : a + b = c + d) :
    2 ^ a * 2 ^ b = 2 ^ c * 2 ^ d := by
  rw [← Nat.pow_add, sum, Nat.pow_add]

theorem unitsOf_infinityPattern : unitsOf infinityPattern = 2 ^ 1024 * one := by
  have exponent : infinityPattern = 2046 * 2 ^ 52 + 2 ^ 52 := by decide
  rw [exponent, unitsOf_of_mantissa (Nat.le_refl _) (by decide), one]
  exact two_pow_mul (by decide)

/-- The number that a finite value is. -/
def toRat (x : Binary64) : ℚ := (if x.isNegative then -1 else 1) * (x.units / one)

/-- A finite value that is nearest to a number among all finite values, with an even pattern if
another one is as near. -/
structure Nearest (x : ℚ) (v : Binary64) : Prop where
  finite : v.isFinite = true
  nearest {w : Binary64} (finite : w.isFinite = true) : |v.toRat - x| ≤ |w.toRat - x|
  even {w : Binary64} (finite : w.isFinite = true) (other : w.toRat ≠ v.toRat)
    (tie : |w.toRat - x| = |v.toRat - x|) : v.pattern % 2 = 0

section Pattern

variable {negative : Bool} {pattern : Nat}

theorem toNat_bits_ofPattern (small : pattern < 2 ^ 63) :
    (ofPattern negative pattern).bits.toNat = if negative then 2 ^ 63 + pattern else pattern := by
  unfold ofPattern
  rw [UInt64.toNat_ofNat', Nat.mod_eq_of_lt]
  split <;> omega

@[simp] theorem isNegative_ofPattern (small : pattern < 2 ^ 63) :
    (ofPattern negative pattern).isNegative = negative := by
  rw [isNegative, toNat_bits_ofPattern small]
  cases negative with
  | false => simpa using small
  | true => simp

@[simp] theorem pattern_ofPattern (small : pattern < 2 ^ 63) :
    (ofPattern negative pattern).pattern = pattern := by
  rw [Binary64.pattern, toNat_bits_ofPattern small]
  split <;> omega

/-- A value is made of its sign and its pattern. -/
theorem ofPattern_pattern (x : Binary64) : ofPattern x.isNegative x.pattern = x := by
  obtain ⟨bits⟩ := x
  have bound := bits.toNat_lt
  have same : (if 2 ^ 63 ≤ bits.toNat then 2 ^ 63 + bits.toNat % 2 ^ 63 else bits.toNat % 2 ^ 63) =
      bits.toNat := by
    split <;> omega
  simp only [ofPattern, isNegative, Binary64.pattern, decide_eq_true_eq, same, UInt64.ofNat_toNat]

theorem infinityPattern_lt : infinityPattern < 2 ^ 63 := by decide

end Pattern

section Sign

variable {negative : Bool} {pattern : Nat} {x : ℚ}

theorem unit_pos : (0 : ℚ) < one := by exact_mod_cast one_pos

theorem toRat_ofPattern (small : pattern < 2 ^ 63) :
    (ofPattern negative pattern).toRat = (if negative then -1 else 1) * (unitsOf pattern / one) := by
  rw [toRat, units, isNegative_ofPattern small, pattern_ofPattern small]

private theorem scale (u v : ℚ) : |u / one - v / one| * one = |u - v| := by
  rw [← sub_div, abs_div, abs_of_pos unit_pos, div_mul_cancel₀ _ unit_pos.ne']

/-- The distance between a value and a number of the same sign is that of their sizes. -/
private theorem abs_sub_of_alike {w : Binary64} (alike : w.isNegative = negative) :
    |w.toRat - (if negative then -1 else 1) * (x / one)| * one = |(w.units : ℚ) - x| := by
  rw [toRat, alike]
  cases negative
  · simp only [Bool.false_eq_true, if_false, one_mul, scale]
  · simp only [if_true, neg_one_mul, neg_sub_neg]
    rw [abs_sub_comm, scale]

/-- The distance between a value and a number of the other sign is the sum of their sizes. -/
private theorem abs_sub_of_opposite {w : Binary64} (positive : 0 ≤ x)
    (opposite : w.isNegative = !negative) :
    |w.toRat - (if negative then -1 else 1) * (x / one)| * one = w.units + x := by
  have sum : |(w.units : ℚ) / one - -x / one| * one = w.units + x := by
    rw [scale, sub_neg_eq_add, abs_of_nonneg (add_nonneg (Nat.cast_nonneg _) positive)]
  rw [toRat, opposite, ← sum]
  cases negative
  · simp only [Bool.not_false, Bool.false_eq_true, if_true, if_false, one_mul, neg_one_mul]
    rw [← abs_neg, neg_sub', neg_neg, ← neg_div]
  · simp only [Bool.not_true, Bool.false_eq_true, if_true, if_false, one_mul, neg_one_mul, neg_div]

private theorem abs_sub_size (w : Binary64) (negative : Bool) (positive : 0 ≤ x) :
    |(w.units : ℚ) - x| ≤ |w.toRat - (if negative then -1 else 1) * (x / one)| * one := by
  obtain alike | opposite := Bool.eq_or_eq_not w.isNegative negative
  · exact (abs_sub_of_alike alike).ge
  · rw [abs_sub_of_opposite positive opposite, abs_le]
    have size : (0 : ℚ) ≤ w.units := Nat.cast_nonneg _
    constructor <;> linarith

/-- The pattern nearest to a size makes, with the sign of a number of that size, the value nearest
to that number. -/
theorem nearest_ofPattern (positive : 0 ≤ x) (near : NearestUnits x pattern)
    (finite : pattern < infinityPattern) (negative : Bool) :
    Nearest ((if negative then -1 else 1) * (x / one)) (ofPattern negative pattern) := by
  have small : pattern < 2 ^ 63 := finite.trans infinityPattern_lt
  have sign : (ofPattern negative pattern).isNegative = negative := isNegative_ofPattern small
  have own := abs_sub_of_alike (x := x) sign
  rw [Binary64.units, pattern_ofPattern small] at own
  constructor
  · simpa [isFinite, pattern_ofPattern small] using finite
  · intro w _
    apply le_of_mul_le_mul_right _ unit_pos
    rw [own]
    exact (near.nearest w.pattern).trans (abs_sub_size w negative positive)
  · intro w _ other tie
    rw [pattern_ofPattern small]
    have sizes := abs_sub_size w negative positive
    rw [tie, own] at sizes
    by_cases alike : w.pattern = pattern
    · -- Values of one size differ in their signs, so zero is as near as the nearer of them.
      exfalso
      apply other
      have opposite : w.isNegative = !negative := by
        refine (Bool.eq_or_eq_not w.isNegative negative).resolve_left fun same => other ?_
        rw [← same, ← alike, ofPattern_pattern]
      have sum := abs_sub_of_opposite positive opposite
      have zero := near.nearest 0
      rw [show unitsOf 0 = 0 from rfl, Nat.cast_zero, zero_sub, abs_neg, abs_of_nonneg positive,
        ← own, ← tie, sum] at zero
      have size : (0 : ℚ) ≤ w.units := Nat.cast_nonneg _
      have nothing : (w.units : ℚ) = 0 := by linarith
      rw [toRat, toRat_ofPattern small, ← alike, ← Binary64.units, nothing, zero_div, mul_zero,
        mul_zero]
    · exact near.even alike (le_antisymm sizes (near.nearest w.pattern))

/-- The nearest value to a number is the only one that has its sign. -/
theorem Nearest.eq_ofPattern {v : Binary64} (positive : 0 ≤ x) (near : NearestUnits x pattern)
    (finite : pattern < infinityPattern) (nearest : Nearest ((if negative then -1 else 1) * (x / one)) v)
    (sign : v.isNegative = negative) : v = ofPattern negative pattern := by
  have small : pattern < 2 ^ 63 := finite.trans infinityPattern_lt
  have other := nearest_ofPattern positive near finite negative
  have sign' : (ofPattern negative pattern).isNegative = negative := isNegative_ofPattern small
  have tie := le_antisymm (nearest.nearest other.finite) (other.nearest nearest.finite)
  have size := abs_sub_of_alike (x := x) sign
  have size' := abs_sub_of_alike (x := x) sign'
  rw [tie, size', units, units, pattern_ofPattern small] at size
  suffices same : v.pattern = pattern by rw [← sign, ← same, ofPattern_pattern]
  by_contra different
  -- Two values at the same distance would both be even, and so one between them would be nearer.
  have even : v.pattern % 2 = 0 := by
    refine nearest.even other.finite (fun same => different ?_) tie.symm
    have factor : (if negative then -1 else 1 : ℚ) ≠ 0 := by
      cases negative <;> norm_num
    rw [toRat_ofPattern small, toRat, sign, mul_right_inj' factor,
      div_left_inj' unit_pos.ne'] at same
    exact (unitsOf_strictMono.injective (Nat.cast_injective same)).symm
  have second : NearestUnits x v.pattern := ⟨fun q => size ▸ near.nearest q, fun _ _ => even⟩
  exact different (second.unique near)

end Sign

end SensorRelay.Binary64
