import SensorRelay.Binary64.Rounding
import Mathlib.Algebra.Order.Field.Rat
import Mathlib.Tactic.FieldSimp
import Mathlib.Tactic.Linarith
import Mathlib.Tactic.NormNum
import Mathlib.Tactic.Positivity
import Mathlib.Tactic.Ring

/-! # Rounding gives the nearest

A quotient is rounded to the nearest whole number, and to the even one of two that are equally near.
The finite values lie on grids that double their step at each power of two: a value from the grid of
a step that is not a whole multiple of it lies below that grid. So the nearest multiple of the step
that belongs to a quotient is the value nearest to it (`nearest_gridPattern`).
-/

namespace SensorRelay

section Quotient

variable {a d : Nat}

/-- Rounding moves a quotient by half of one at most, and by that much only to an even number. -/
private theorem roundQuotient_bounds (positive : 0 < d) :
    2 * (roundQuotient a d * d) ≤ 2 * a + d ∧ 2 * a ≤ 2 * (roundQuotient a d * d) + d ∧
      (2 * (roundQuotient a d * d) = 2 * a + d ∨ 2 * a = 2 * (roundQuotient a d * d) + d →
        roundQuotient a d % 2 = 0) := by
  have whole : a / d * d + a % d = a := Nat.div_add_mod' a d
  have rest : a % d < d := Nat.mod_lt a positive
  have next : (a / d + 1) * d = a / d * d + d := Nat.succ_mul _ _
  unfold roundQuotient
  dsimp only
  split_ifs
  · omega
  · rw [next]
    omega
  · omega
  · rw [next]
    omega

theorem abs_roundQuotient_sub_le (positive : 0 < d) :
    |(roundQuotient a d : ℚ) - a / d| ≤ 1 / 2 := by
  obtain ⟨above, below, _⟩ := roundQuotient_bounds (a := a) positive
  have positive' : (0 : ℚ) < d := by exact_mod_cast positive
  have above' : 2 * ((roundQuotient a d : ℚ) * d) ≤ 2 * a + d := by exact_mod_cast above
  have below' : 2 * (a : ℚ) ≤ 2 * ((roundQuotient a d : ℚ) * d) + d := by exact_mod_cast below
  have same : ((roundQuotient a d : ℚ) - a / d) * d = roundQuotient a d * d - a := by
    field_simp
  rw [abs_le]
  constructor
  · by_contra outside
    have := mul_lt_mul_of_pos_right (not_le.mp outside) positive'
    linarith
  · by_contra outside
    have := mul_lt_mul_of_pos_right (not_le.mp outside) positive'
    linarith

/-- A half is rounded to an even number. -/
theorem roundQuotient_even (positive : 0 < d)
    (half : |(roundQuotient a d : ℚ) - a / d| = 1 / 2) : roundQuotient a d % 2 = 0 := by
  obtain ⟨_, _, even⟩ := roundQuotient_bounds (a := a) positive
  have positive' : (0 : ℚ) < d := by exact_mod_cast positive
  have same : ((roundQuotient a d : ℚ) - a / d) * d = roundQuotient a d * d - a := by
    field_simp
  apply even
  obtain up | down := (abs_eq (by norm_num)).mp half
  · left
    rw [up] at same
    have : 2 * ((roundQuotient a d : ℚ) * d) = 2 * a + d := by linarith
    exact_mod_cast this
  · right
    rw [down] at same
    have : 2 * (a : ℚ) = 2 * ((roundQuotient a d : ℚ) * d) + d := by linarith
    exact_mod_cast this

/-- Two whole numbers are at least one apart, so the other one is not nearer. -/
private theorem half_le_of_ne {r m : Int} {x : ℚ} (near : |(r : ℚ) - x| ≤ 1 / 2) (other : m ≠ r) :
    1 / 2 ≤ |(m : ℚ) - x| := by
  have apart : (1 : ℚ) ≤ |(m : ℚ) - r| := by
    have : (1 : Int) ≤ |m - r| := Int.one_le_abs (sub_ne_zero.mpr other)
    exact_mod_cast this
  have triangle : |(m : ℚ) - r| ≤ |(m : ℚ) - x| + |(r : ℚ) - x| := by
    rw [abs_sub_comm (r : ℚ) x]
    exact abs_sub_le _ _ _
  linarith

/-- No whole number is nearer to a quotient than the one that it is rounded to. -/
theorem roundQuotient_nearest (positive : 0 < d) (m : Int) :
    |(roundQuotient a d : ℚ) - a / d| ≤ |(m : ℚ) - a / d| := by
  have near := abs_roundQuotient_sub_le (a := a) positive
  by_cases same : m = roundQuotient a d
  · rw [same]
    simp
  · exact near.trans (half_le_of_ne (r := roundQuotient a d) (by exact_mod_cast near) same)

/-- If another whole number is as near, then the one that it is rounded to is even. -/
theorem roundQuotient_even_of_tie (positive : 0 < d) {m : Int} (other : m ≠ roundQuotient a d)
    (tie : |(m : ℚ) - a / d| = |(roundQuotient a d : ℚ) - a / d|) :
    roundQuotient a d % 2 = 0 := by
  have near := abs_roundQuotient_sub_le (a := a) positive
  have far := half_le_of_ne (r := roundQuotient a d) (by exact_mod_cast near) other
  exact roundQuotient_even positive (le_antisymm near (far.trans tie.le))

/-- A whole number that is less than half of one away is what a quotient is rounded to. -/
theorem roundQuotient_eq_of_abs_sub_lt (positive : 0 < d) {n : Nat}
    (near : |(n : ℚ) - a / d| < 1 / 2) : roundQuotient a d = n := by
  by_contra other
  have rounded := abs_roundQuotient_sub_le (a := a) positive
  have far := half_le_of_ne (r := roundQuotient a d) (m := n) (by exact_mod_cast rounded)
    (by exact_mod_cast Ne.symm other)
  have far' : (1 : ℚ) / 2 ≤ |(n : ℚ) - a / d| := by exact_mod_cast far
  linarith

/-- A quotient is rounded to no more than any whole number that it does not exceed. -/
theorem roundQuotient_le {most : Nat} (positive : 0 < d) (few : a ≤ most * d) :
    roundQuotient a d ≤ most := by
  have whole : a / d * d + a % d = a := Nat.div_add_mod' a d
  obtain less | same := Nat.lt_or_eq_of_le (Nat.div_le_of_le_mul (Nat.mul_comm most d ▸ few))
  · unfold roundQuotient
    dsimp only
    split_ifs <;> omega
  · rw [same] at whole
    have divides : a % d = 0 := by omega
    simp [roundQuotient, same, divides, positive]

theorem le_roundQuotient {least : Nat} (positive : 0 < d) (many : least * d ≤ a) :
    least ≤ roundQuotient a d := by
  have whole : least ≤ a / d := (Nat.le_div_iff_mul_le positive).mpr many
  unfold roundQuotient
  dsimp only
  split_ifs <;> omega

end Quotient

namespace Binary64

theorem unitsOf_of_lt {pattern : Nat} (small : pattern < 2 ^ 52) : unitsOf pattern = pattern :=
  if_pos small

/-- The size that a pattern with a mantissa and an exponent stands for. -/
theorem unitsOf_of_mantissa {mantissa exponent : Nat} (low : 2 ^ 52 ≤ mantissa)
    (high : mantissa < 2 ^ 53) :
    unitsOf (exponent * 2 ^ 52 + mantissa) = mantissa * 2 ^ exponent := by
  have large : ¬ exponent * 2 ^ 52 + mantissa < 2 ^ 52 := by omega
  have quotient : (exponent * 2 ^ 52 + mantissa) / 2 ^ 52 = exponent + 1 := by omega
  have rest : 2 ^ 52 + (exponent * 2 ^ 52 + mantissa) % 2 ^ 52 = mantissa := by omega
  rw [unitsOf, if_neg large, quotient, rest, Nat.add_sub_cancel]

/-- A rounded mantissa on its grid, whether or not it carries into the exponent. -/
theorem unitsOf_grid {shift q : Nat} (low : shift = 0 ∨ 2 ^ 52 ≤ q) (high : q ≤ 2 ^ 53) :
    unitsOf (shift * 2 ^ 52 + q) = q * 2 ^ shift := by
  by_cases small : q < 2 ^ 52
  · obtain rfl := low.resolve_right (by omega)
    rw [Nat.zero_mul, Nat.zero_add, unitsOf_of_lt small, Nat.pow_zero, Nat.mul_one]
  · obtain carries | fits := Nat.eq_or_lt_of_le high
    · have carried : shift * 2 ^ 52 + q = (shift + 1) * 2 ^ 52 + 2 ^ 52 := by omega
      rw [carried, unitsOf_of_mantissa (Nat.le_refl _) (by decide), carries, Nat.pow_succ]
      ring
    · exact unitsOf_of_mantissa (by omega) fits

/-- Every pattern stands for a mantissa on the grid of its exponent. -/
theorem exists_mantissa (pattern : Nat) :
    ∃ exponent mantissa, (exponent = 0 ∨ 2 ^ 52 ≤ mantissa) ∧ mantissa < 2 ^ 53 ∧
      pattern = exponent * 2 ^ 52 + mantissa ∧ unitsOf pattern = mantissa * 2 ^ exponent := by
  by_cases small : pattern < 2 ^ 52
  · exact ⟨0, pattern, .inl rfl, by omega, by omega, by simp [unitsOf_of_lt small]⟩
  · have low : 2 ^ 52 ≤ 2 ^ 52 + pattern % 2 ^ 52 := Nat.le_add_right _ _
    refine ⟨pattern / 2 ^ 52 - 1, 2 ^ 52 + pattern % 2 ^ 52, .inr low, by omega, by omega, ?_⟩
    rw [unitsOf, if_neg small]

theorem unitsOf_strictMono : StrictMono unitsOf := by
  refine strictMono_nat_of_lt_succ fun pattern => ?_
  obtain ⟨exponent, mantissa, low, high, same, units⟩ := exists_mantissa pattern
  have next : unitsOf (pattern + 1) = (mantissa + 1) * 2 ^ exponent := by
    rw [same, Nat.add_assoc]
    exact unitsOf_grid (low.imp_right fun low => by omega) (by omega)
  rw [units, next]
  exact Nat.mul_lt_mul_of_pos_right (Nat.lt_succ_self _) (Nat.two_pow_pos _)

/-- Values that are large enough for a grid lie on it. -/
theorem dvd_unitsOf {pattern exponent : Nat} (large : 2 ^ 52 * 2 ^ exponent ≤ unitsOf pattern) :
    2 ^ exponent ∣ unitsOf pattern := by
  obtain ⟨own, mantissa, _, high, _, units⟩ := exists_mantissa pattern
  rw [units] at large ⊢
  have coarse : exponent ≤ own := by
    by_contra fine
    have step : 2 ^ own * 2 ≤ 2 ^ exponent := by
      rw [← Nat.pow_succ]
      exact Nat.pow_le_pow_right (by decide) (by omega)
    have positive := Nat.two_pow_pos own
    nlinarith
  exact Dvd.dvd.mul_left (Nat.pow_dvd_pow 2 coarse) mantissa

/-- Every multiple of a step that a mantissa can count is a value. -/
theorem exists_unitsOf_eq {count : Nat} (few : count ≤ 2 ^ 53) (exponent : Nat) :
    ∃ pattern, unitsOf pattern = count * 2 ^ exponent := by
  induction exponent generalizing count with
  | zero => exact ⟨0 * 2 ^ 52 + count, unitsOf_grid (.inl rfl) few⟩
  | succ exponent ih =>
    by_cases half : count ≤ 2 ^ 52
    · have twice : 2 * count ≤ 2 ^ 53 := by omega
      obtain ⟨pattern, units⟩ := ih twice
      exact ⟨pattern, by rw [units, Nat.pow_succ]; ring⟩
    · exact ⟨(exponent + 1) * 2 ^ 52 + count, unitsOf_grid (.inr (by omega)) few⟩

/-- A pattern whose value is nearest to a number of units among all values, those beyond the finite
ones included, and of two that are equally near the even one. -/
structure NearestUnits (x : ℚ) (pattern : Nat) : Prop where
  nearest (other : Nat) : |(unitsOf pattern : ℚ) - x| ≤ |(unitsOf other : ℚ) - x|
  even {other : Nat} (apart : other ≠ pattern)
    (tie : |(unitsOf other : ℚ) - x| = |(unitsOf pattern : ℚ) - x|) : pattern % 2 = 0

/-- The pattern of the value nearest to a number of units, as if there were no largest one. -/
def gridPattern (scaled denominator : Nat) : Nat :=
  let shift := (scaled / denominator).log2 - 52
  shift * 2 ^ 52 + roundQuotient scaled (denominator * 2 ^ shift)

section Grid

variable {scaled denominator shift : Nat}

/-- Where a number lies on the grid that is chosen for it: the step is one, or the number counts at
least `2 ^ 52` steps, and always fewer than `2 ^ 53`. -/
private theorem quotient_bounds (positive : 0 < denominator)
    (chosen : shift = (scaled / denominator).log2 - 52) :
    (shift = 0 ∨ 2 ^ 52 * (denominator * 2 ^ shift) ≤ scaled) ∧
      scaled < 2 ^ 53 * (denominator * 2 ^ shift) := by
  have above : scaled / denominator < 2 ^ (52 + shift + 1) :=
    Nat.lt_of_lt_of_le Nat.lt_log2_self (Nat.pow_le_pow_right (by decide) (by omega))
  constructor
  · obtain rfl | shifted := Nat.eq_zero_or_pos shift
    · exact .inl rfl
    · right
      have nonzero : scaled / denominator ≠ 0 := by
        intro zero
        simp [zero, Nat.log2_zero] at chosen
        omega
      have below : 2 ^ (52 + shift) ≤ scaled / denominator := by
        have same : 52 + shift = (scaled / denominator).log2 := by omega
        rw [same]
        exact Nat.log2_self_le nonzero
      calc 2 ^ 52 * (denominator * 2 ^ shift) = 2 ^ (52 + shift) * denominator := by
            rw [Nat.pow_add]; ring
        _ ≤ scaled / denominator * denominator := Nat.mul_le_mul_right _ below
        _ ≤ scaled := Nat.div_mul_le_self _ _
  · have less : scaled < 2 ^ (52 + shift + 1) * denominator :=
      (Nat.div_lt_iff_lt_mul positive).mp above
    calc scaled < 2 ^ (52 + shift + 1) * denominator := less
      _ = 2 ^ 53 * (denominator * 2 ^ shift) := by
          rw [show 52 + shift + 1 = 53 + shift by omega, Nat.pow_add]; ring

theorem unitsOf_gridPattern (positive : 0 < denominator)
    (chosen : shift = (scaled / denominator).log2 - 52) :
    unitsOf (gridPattern scaled denominator) =
      roundQuotient scaled (denominator * 2 ^ shift) * 2 ^ shift := by
  obtain ⟨low, high⟩ := quotient_bounds positive chosen
  have stepPositive : 0 < denominator * 2 ^ shift := Nat.mul_pos positive (Nat.two_pow_pos _)
  rw [gridPattern, ← chosen]
  exact unitsOf_grid (low.imp_right (le_roundQuotient stepPositive))
    (roundQuotient_le stepPositive high.le)

/-- Distances on a grid are distances between whole numbers, times the step. -/
private theorem abs_scale {d : Nat} (positive : 0 < d) (a step : Nat) (stepPositive : 0 < step)
    (k : ℚ) : |k * step - (a : ℚ) / d| = |k - (a : ℚ) / (d * step : Nat)| * step := by
  have stepPositive' : (0 : ℚ) < step := by exact_mod_cast stepPositive
  have positive' : (0 : ℚ) < d := by exact_mod_cast positive
  rw [← abs_of_pos stepPositive', ← abs_mul, abs_of_pos stepPositive']
  congr 1
  push_cast
  field_simp

/-- Of two numbers below a third one, the smaller is farther away from it. -/
theorem farther_below {u v x : ℚ} (less : u < v) (below : v ≤ x) : |v - x| < |u - x| := by
  rw [abs_of_nonpos (sub_nonpos.mpr below), abs_of_nonpos (sub_nonpos.mpr (less.le.trans below))]
  linarith

/-- A value that is not on the chosen grid is farther away than the least one that is on it for
sure. -/
private theorem farther_of_not_dvd (positive : 0 < denominator)
    (chosen : shift = (scaled / denominator).log2 - 52) {other : Nat}
    (off : ¬ 2 ^ shift ∣ unitsOf other) :
    |((2 ^ 52 : Nat) : ℚ) * (2 ^ shift : Nat) - (scaled : ℚ) / denominator| <
      |(unitsOf other : ℚ) - (scaled : ℚ) / denominator| := by
  have positive' : (0 : ℚ) < denominator := by exact_mod_cast positive
  have small : unitsOf other < 2 ^ 52 * 2 ^ shift := by
    by_contra large
    exact off (dvd_unitsOf (Nat.not_lt.mp large))
  have beyond : 2 ^ 52 * (denominator * 2 ^ shift) ≤ scaled := by
    refine (quotient_bounds positive chosen).1.resolve_left ?_
    rintro rfl
    exact off (one_dvd _)
  have small' : (unitsOf other : ℚ) < ((2 ^ 52 : Nat) : ℚ) * (2 ^ shift : Nat) := by
    exact_mod_cast small
  have beyond' : ((2 ^ 52 : Nat) : ℚ) * (2 ^ shift : Nat) ≤ (scaled : ℚ) / denominator := by
    rw [le_div_iff₀ positive']
    have := beyond
    rw [show 2 ^ 52 * (denominator * 2 ^ shift) = 2 ^ 52 * 2 ^ shift * denominator by ring] at this
    exact_mod_cast this
  exact farther_below small' beyond'

theorem nearest_gridPattern (positive : 0 < denominator) :
    NearestUnits ((scaled : ℚ) / denominator) (gridPattern scaled denominator) := by
  obtain ⟨shift, chosen⟩ : ∃ shift, shift = (scaled / denominator).log2 - 52 := ⟨_, rfl⟩
  have stepPositive : 0 < 2 ^ shift := Nat.two_pow_pos shift
  have stepPositive' : (0 : ℚ) < (2 ^ shift : Nat) := by exact_mod_cast stepPositive
  have gridPositive : 0 < denominator * 2 ^ shift := Nat.mul_pos positive stepPositive
  have scale := abs_scale positive scaled (2 ^ shift) stepPositive
  have units : (unitsOf (gridPattern scaled denominator) : ℚ) =
      (roundQuotient scaled (denominator * 2 ^ shift) : ℚ) * (2 ^ shift : Nat) := by
    rw [unitsOf_gridPattern positive chosen]
    push_cast
    rfl
  have onGrid (count : Nat) :
      |(unitsOf (gridPattern scaled denominator) : ℚ) - (scaled : ℚ) / denominator| ≤
        |(count : ℚ) * (2 ^ shift : Nat) - (scaled : ℚ) / denominator| := by
    rw [units, scale, scale]
    exact mul_le_mul_of_nonneg_right
      (by exact_mod_cast roundQuotient_nearest gridPositive count) stepPositive'.le
  constructor
  · intro other
    by_cases multiple : 2 ^ shift ∣ unitsOf other
    · obtain ⟨count, counted⟩ := multiple
      have size : (unitsOf other : ℚ) = (count : ℚ) * (2 ^ shift : Nat) := by
        rw [counted, mul_comm]
        push_cast
        rfl
      rw [size]
      exact onGrid count
    · exact (onGrid (2 ^ 52)).trans (farther_of_not_dvd positive chosen multiple).le
  · intro other apart tie
    by_cases multiple : 2 ^ shift ∣ unitsOf other
    · obtain ⟨count, counted⟩ := multiple
      have size : (unitsOf other : ℚ) = (count : ℚ) * (2 ^ shift : Nat) := by
        rw [counted, mul_comm]
        push_cast
        rfl
      have different : count ≠ roundQuotient scaled (denominator * 2 ^ shift) := by
        rintro rfl
        apply apart
        apply unitsOf_strictMono.injective
        rw [counted, unitsOf_gridPattern positive chosen, mul_comm]
      rw [size, units, scale, scale] at tie
      have even := roundQuotient_even_of_tie gridPositive
        (show (count : Int) ≠ roundQuotient scaled (denominator * 2 ^ shift) by
          exact_mod_cast different)
        (by exact_mod_cast mul_right_cancel₀ stepPositive'.ne' tie)
      rw [gridPattern, ← chosen]
      omega
    · have far := farther_of_not_dvd positive chosen multiple
      have near := onGrid (2 ^ 52)
      rw [tie] at far
      exact (far.not_ge near).elim

/-- The pattern nearest to a number of units is no farther away than half a step of any grid on
which a mantissa can count that far. -/
theorem NearestUnits.abs_sub_le {a d pattern step : Nat} (positive : 0 < d)
    (near : NearestUnits ((a : ℚ) / d) pattern) (few : a ≤ 2 ^ 53 * (d * 2 ^ step)) :
    |(unitsOf pattern : ℚ) - (a : ℚ) / d| ≤ (2 ^ step : Nat) / 2 := by
  have stepPositive : 0 < 2 ^ step := Nat.two_pow_pos step
  have gridPositive : 0 < d * 2 ^ step := Nat.mul_pos positive stepPositive
  obtain ⟨other, units⟩ := exists_unitsOf_eq (roundQuotient_le gridPositive few) step
  have half := abs_roundQuotient_sub_le (a := a) gridPositive
  have size : (unitsOf other : ℚ) = (roundQuotient a (d * 2 ^ step) : ℚ) * (2 ^ step : Nat) := by
    rw [units]
    push_cast
    rfl
  calc |(unitsOf pattern : ℚ) - (a : ℚ) / d| ≤ |(unitsOf other : ℚ) - (a : ℚ) / d| :=
        near.nearest other
    _ = |(roundQuotient a (d * 2 ^ step) : ℚ) - (a : ℚ) / (d * 2 ^ step : Nat)| *
          (2 ^ step : Nat) := by
        rw [size, abs_scale positive a _ stepPositive]
    _ ≤ 1 / 2 * (2 ^ step : Nat) := mul_le_mul_of_nonneg_right half (Nat.cast_nonneg _)
    _ = (2 ^ step : Nat) / 2 := by ring

end Grid

end Binary64

end SensorRelay
