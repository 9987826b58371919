import SensorRelay.Proofs.Binary64.Rounding

/-! # Neighbouring values

Values next to each other are a step apart, and steps never shrink from one value to the next. A
number lies between the middles on both sides of the value nearest to it. So numbers whose ratio is
close to one have nearest values that are few steps apart (`NearestUnits.few_apart`), and rounding a
number that is large enough keeps their ratio close to one (`NearestUnits.within`).
-/

namespace SensorRelay.Binary64

theorem unitsOf_pos {pattern : Nat} (positive : 0 < pattern) : 0 < unitsOf pattern :=
  Nat.lt_of_le_of_lt (Nat.zero_le _) (unitsOf_strictMono positive)

/-- The least normal value. -/
theorem unitsOf_normal : unitsOf (2 ^ 52) = 2 ^ 52 := by decide

/-- Every quotient has a nearest value, which is taken unless it lies beyond the finite ones. -/
theorem exists_nearest (numerator : Nat) {denominator : Nat} (positive : 0 < denominator) :
    ∃ p, NearestUnits ((numerator : ℚ) * one / denominator) p ∧
      nearestPattern numerator denominator = min p infinityPattern := by
  refine ⟨gridPattern (numerator * one) denominator, ?_, rfl⟩
  have near : NearestUnits ((numerator * one : Nat) / denominator)
      (gridPattern (numerator * one) denominator) := nearest_gridPattern positive
  rw [Nat.cast_mul] at near
  exact near

/-- How far the next value is away from the one with a pattern, in units. -/
def step (pattern : Nat) : Nat := 2 ^ (pattern / 2 ^ 52 - 1)

theorem unitsOf_succ (pattern : Nat) : unitsOf (pattern + 1) = unitsOf pattern + step pattern := by
  by_cases small : pattern < 2 ^ 52
  · have next : unitsOf (0 * 2 ^ 52 + (pattern + 1)) = (pattern + 1) * 2 ^ 0 :=
      unitsOf_grid (.inl rfl) (by omega)
    have exponent : pattern / 2 ^ 52 - 1 = 0 := by omega
    rw [Nat.zero_mul, Nat.zero_add] at next
    rw [next, unitsOf_of_lt small, step, exponent]
    omega
  · have position : pattern + 1 =
        (pattern / 2 ^ 52 - 1) * 2 ^ 52 + (2 ^ 52 + pattern % 2 ^ 52 + 1) := by omega
    rw [position, unitsOf_grid (.inr (by omega)) (by omega), unitsOf, if_neg small, step,
      Nat.succ_mul]

theorem step_pos (pattern : Nat) : 0 < step pattern := Nat.two_pow_pos _

theorem step_mono {pattern other : Nat} (le : pattern ≤ other) : step pattern ≤ step other := by
  have exponents : pattern / 2 ^ 52 - 1 ≤ other / 2 ^ 52 - 1 := by omega
  exact Nat.pow_le_pow_right (by decide) exponents

/-- A value is no more steps away from zero than a mantissa can count. -/
theorem unitsOf_succ_le (pattern : Nat) : unitsOf (pattern + 1) ≤ 2 ^ 53 * step pattern := by
  rw [unitsOf_succ, step]
  by_cases small : pattern < 2 ^ 52
  · have exponent : pattern / 2 ^ 52 - 1 = 0 := by omega
    rw [unitsOf_of_lt small, exponent]
    omega
  · rw [unitsOf, if_neg small]
    have few : 2 ^ 52 + pattern % 2 ^ 52 + 1 ≤ 2 ^ 53 := by omega
    calc _ = (2 ^ 52 + pattern % 2 ^ 52 + 1) * 2 ^ (pattern / 2 ^ 52 - 1) := by ring
      _ ≤ 2 ^ 53 * 2 ^ (pattern / 2 ^ 52 - 1) := Nat.mul_le_mul_right _ few

/-- From the least normal value on, a value is at least so many steps away from zero. -/
theorem le_unitsOf {pattern : Nat} (normal : 2 ^ 52 ≤ pattern) :
    2 ^ 52 * step pattern ≤ unitsOf pattern := by
  rw [unitsOf, if_neg (Nat.not_lt.mpr normal), step]
  exact Nat.mul_le_mul_right _ (Nat.le_add_right _ _)

theorem unitsOf_add_le (pattern count : Nat) :
    unitsOf pattern + count * step pattern ≤ unitsOf (pattern + count) := by
  induction count with
  | zero => simp
  | succ count ih =>
    have wider : step pattern ≤ step (pattern + count) := step_mono (Nat.le_add_right _ _)
    rw [← Nat.add_assoc, unitsOf_succ, Nat.succ_mul]
    omega

/-- What is nearer to the lower one of two numbers lies below their middle. -/
private theorem le_middle {a b x : ℚ} (less : a < b) (near : |a - x| ≤ |b - x|) :
    2 * x ≤ a + b := by
  have squares := sq_le_sq.mpr near
  by_contra above
  have positive := mul_pos (sub_pos.mpr less) (sub_pos.mpr (not_le.mp above))
  nlinarith

private theorem middle_le {a b x : ℚ} (less : a < b) (near : |b - x| ≤ |a - x|) :
    a + b ≤ 2 * x := by
  have squares := sq_le_sq.mpr near
  by_contra below
  have positive := mul_pos (sub_pos.mpr less) (sub_pos.mpr (not_le.mp below))
  nlinarith

private theorem unitsOf_lt {pattern other : Nat} (less : pattern < other) :
    (unitsOf pattern : ℚ) < unitsOf other := by
  exact_mod_cast unitsOf_strictMono less

/-- Two sizes whose ratio is a factor at most, either way. -/
structure Within (factor a b : ℚ) : Prop where
  le : a ≤ factor * b
  ge : b ≤ factor * a

namespace Within

variable {factor other a b c d : ℚ}

theorem trans (nonneg : 0 ≤ factor) (positive : 0 ≤ other) (first : Within factor a b)
    (second : Within other b c) : Within (factor * other) a c := by
  constructor
  · calc a ≤ factor * b := first.le
      _ ≤ factor * (other * c) := mul_le_mul_of_nonneg_left second.le nonneg
      _ = factor * other * c := by ring
  · calc c ≤ other * b := second.ge
      _ ≤ other * (factor * a) := mul_le_mul_of_nonneg_left first.ge positive
      _ = factor * other * a := by ring

theorem mul_right (near : Within factor a b) (nonneg : 0 ≤ c) : Within factor (a * c) (b * c) := by
  constructor
  · calc a * c ≤ factor * b * c := mul_le_mul_of_nonneg_right near.le nonneg
      _ = factor * (b * c) := by ring
  · calc b * c ≤ factor * a * c := mul_le_mul_of_nonneg_right near.ge nonneg
      _ = factor * (a * c) := by ring

theorem mul (nonneg : 0 ≤ factor) (positive : 0 ≤ other) (first : Within factor a b)
    (second : Within other c d) (size : 0 ≤ b) (size' : 0 ≤ c) :
    Within (factor * other) (a * c) (b * d) := by
  have second := second.mul_right size
  rw [mul_comm c, mul_comm d] at second
  exact (first.mul_right size').trans nonneg positive second

theorem inv (near : Within factor a b) (first : 0 < a) (second : 0 < b) :
    Within factor a⁻¹ b⁻¹ := by
  constructor
  · rw [inv_le_iff_one_le_mul₀ first]
    calc 1 = b⁻¹ * b := (inv_mul_cancel₀ second.ne').symm
      _ ≤ b⁻¹ * (factor * a) := mul_le_mul_of_nonneg_left near.ge (inv_nonneg.mpr second.le)
      _ = factor * b⁻¹ * a := by ring
  · rw [inv_le_iff_one_le_mul₀ second]
    calc 1 = a⁻¹ * a := (inv_mul_cancel₀ first.ne').symm
      _ ≤ a⁻¹ * (factor * b) := mul_le_mul_of_nonneg_left near.le (inv_nonneg.mpr first.le)
      _ = factor * a⁻¹ * b := by ring

theorem div (nonneg : 0 ≤ factor) (positive : 0 ≤ other) (first : Within factor a b)
    (second : Within other c d) (size : 0 ≤ b) (divisor : 0 < c) (divisor' : 0 < d) :
    Within (factor * other) (a / c) (b / d) := by
  rw [div_eq_mul_inv, div_eq_mul_inv]
  exact first.mul nonneg positive (second.inv divisor divisor') size (inv_nonneg.mpr divisor.le)

/-- Sizes of almost the same ratio are not far apart. -/
theorem abs_sub_le (near : Within factor a b) (least : 1 ≤ factor) (nonneg : 0 ≤ a) :
    |a - b| ≤ (factor - 1) * (factor * a) := by
  have more : 0 ≤ factor - 1 := sub_nonneg.mpr least
  have first : (factor - 1) * b ≤ (factor - 1) * (factor * a) :=
    mul_le_mul_of_nonneg_left near.ge more
  have second : (factor - 1) * a ≤ (factor - 1) * (factor * a) :=
    mul_le_mul_of_nonneg_left (le_mul_of_one_le_left nonneg least) more
  have le := near.le
  have ge := near.ge
  rw [abs_le]
  constructor <;> linarith

end Within

/-- The factor by which rounding changes a number that is large enough, at most. -/
def rounding : ℚ := 1 + 1 / 2 ^ 53

namespace NearestUnits

variable {x y : ℚ} {p q : Nat}

theorem le_middle_above (near : NearestUnits x p) : 2 * x ≤ unitsOf p + unitsOf (p + 1) :=
  le_middle (unitsOf_lt (Nat.lt_succ_self p)) (near.nearest (p + 1))

theorem middle_below_le (near : NearestUnits x (p + 1)) : unitsOf p + unitsOf (p + 1) ≤ 2 * x :=
  middle_le (unitsOf_lt (Nat.lt_succ_self p)) (near.nearest p)

theorem le_of_le (near : NearestUnits x p) (few : x ≤ unitsOf q) : p ≤ q := by
  by_contra more
  have middle := middle_le (unitsOf_lt (Nat.not_le.mp more)) (near.nearest q)
  have less := unitsOf_lt (Nat.not_le.mp more)
  linarith

theorem ge_of_ge (near : NearestUnits x p) (many : (unitsOf q : ℚ) ≤ x) : q ≤ p := by
  by_contra fewer
  have middle := le_middle (unitsOf_lt (Nat.not_le.mp fewer)) (near.nearest q)
  have less := unitsOf_lt (Nat.not_le.mp fewer)
  linarith

/-- A value is nearest to itself. -/
theorem eq_of_eq (near : NearestUnits (unitsOf q) p) : p = q :=
  Nat.le_antisymm (near.le_of_le le_rfl) (near.ge_of_ge le_rfl)

/-- What lies between the middles on both sides of a value is nearest to it. -/
theorem eq_of_between (near : NearestUnits x p)
    (below : ∀ r, r + 1 = q → (unitsOf r + unitsOf q : ℚ) < 2 * x)
    (above : 2 * x < unitsOf q + unitsOf (q + 1)) : p = q := by
  obtain less | same | greater := Nat.lt_trichotomy p q
  · obtain ⟨r, rfl⟩ := Nat.exists_eq_add_of_lt less
    have middle := near.le_middle_above
    have first : unitsOf p ≤ unitsOf (p + r) := unitsOf_strictMono.monotone (by omega)
    have second : unitsOf (p + 1) ≤ unitsOf (p + r + 1) := unitsOf_strictMono.monotone (by omega)
    have first' : (unitsOf p : ℚ) ≤ unitsOf (p + r) := by exact_mod_cast first
    have second' : (unitsOf (p + 1) : ℚ) ≤ unitsOf (p + r + 1) := by exact_mod_cast second
    have := below (p + r) rfl
    linarith
  · exact same
  · obtain ⟨r, rfl⟩ := Nat.exists_eq_add_of_lt greater
    have middle := near.middle_below_le
    have first : unitsOf q ≤ unitsOf (q + r) := unitsOf_strictMono.monotone (by omega)
    have second : unitsOf (q + 1) ≤ unitsOf (q + r + 1) := unitsOf_strictMono.monotone (by omega)
    have first' : (unitsOf q : ℚ) ≤ unitsOf (q + r) := by exact_mod_cast first
    have second' : (unitsOf (q + 1) : ℚ) ≤ unitsOf (q + r + 1) := by exact_mod_cast second
    linarith

/-- No number has two nearest values, as of two neighbours only one is even. -/
theorem unique (first : NearestUnits x p) (second : NearestUnits x q) : p = q := by
  wlog less : p < q generalizing p q with swapped
  · obtain same | more := Nat.eq_or_lt_of_le (Nat.not_lt.mp less)
    · exact same.symm
    · exact (swapped second first more).symm
  exfalso
  have tie : |(unitsOf q : ℚ) - x| = |(unitsOf p : ℚ) - x| :=
    le_antisymm (second.nearest p) (first.nearest q)
  have even := first.even less.ne' tie
  have even' := second.even less.ne tie.symm
  have middle := middle_le (unitsOf_lt less) (second.nearest p)
  have between := first.le_middle_above
  have next : q ≤ p + 1 := by
    by_contra more
    have := unitsOf_lt (Nat.not_le.mp more)
    linarith
  omega

/-- Numbers whose nearest values are many steps apart are far apart themselves. -/
theorem apart (first : NearestUnits x p) (second : NearestUnits y q) {count : Nat}
    (far : p + count < q) : count * (step p : ℚ) ≤ y - x := by
  obtain ⟨rest, rfl⟩ := Nat.exists_eq_add_of_lt far
  have above := first.le_middle_above
  have below := second.middle_below_le
  have lower : unitsOf p + count * step p ≤ unitsOf (p + count + rest) :=
    (unitsOf_add_le p count).trans (unitsOf_strictMono.monotone (by omega))
  have upper : unitsOf (p + 1) + count * step p ≤ unitsOf (p + count + rest + 1) := by
    have wider : count * step p ≤ count * step (p + 1) :=
      Nat.mul_le_mul_left count (step_mono (Nat.le_succ p))
    have more := unitsOf_add_le (p + 1) count
    have last : unitsOf (p + 1 + count) ≤ unitsOf (p + count + rest + 1) :=
      unitsOf_strictMono.monotone (by omega)
    omega
  have lower' : (unitsOf p + count * step p : ℚ) ≤ unitsOf (p + count + rest) := by
    exact_mod_cast lower
  have upper' : (unitsOf (p + 1) + count * step p : ℚ) ≤ unitsOf (p + count + rest + 1) := by
    exact_mod_cast upper
  linarith

/-- A number that is nearest to a value is less than so many of its steps away from zero. -/
theorem le_steps (near : NearestUnits x p) : x ≤ (2 ^ 53 - 1 / 2) * step p := by
  have above := near.le_middle_above
  have size : (unitsOf (p + 1) : ℚ) = unitsOf p + step p := by exact_mod_cast unitsOf_succ p
  have few : (unitsOf (p + 1) : ℚ) ≤ 2 ^ 53 * step p := by exact_mod_cast unitsOf_succ_le p
  linarith

private theorem le_add_of_le {factor : ℚ} {count : Nat} (first : NearestUnits x p)
    (second : NearestUnits y q) (close : y ≤ factor * x) (least : 1 ≤ factor)
    (small : (factor - 1) * (2 ^ 53 - 1 / 2) < count) : q ≤ p + count := by
  by_contra far
  have distance := first.apart second (Nat.not_le.mp far)
  have positive : (0 : ℚ) < step p := by exact_mod_cast step_pos p
  have size := mul_le_mul_of_nonneg_left first.le_steps (sub_nonneg.mpr least)
  have less := mul_lt_mul_of_pos_right small positive
  linarith

/-- Numbers whose ratio is close to one have nearest values that are few steps apart. -/
theorem few_apart {factor : ℚ} (count : Nat) (first : NearestUnits x p) (second : NearestUnits y q)
    (close : Within factor y x) (least : 1 ≤ factor)
    (small : (factor - 1) * (2 ^ 53 - 1 / 2) < count) : q ≤ p + count ∧ p ≤ q + count :=
  ⟨first.le_add_of_le second close.le least small, second.le_add_of_le first close.ge least small⟩

/-- So have numbers that are less than a unit apart. -/
theorem one_apart (first : NearestUnits x p) (second : NearestUnits y q) (close : |y - x| < 1) :
    q ≤ p + 1 ∧ p ≤ q + 1 := by
  have unit (r : Nat) : (1 : ℚ) ≤ step r := by exact_mod_cast step_pos r
  obtain ⟨below, above⟩ := abs_lt.mp close
  constructor
  · by_contra far
    have distance := first.apart second (Nat.not_le.mp far)
    have := unit p
    push_cast at distance
    linarith
  · by_contra far
    have distance := second.apart first (Nat.not_le.mp far)
    have := unit q
    push_cast at distance
    linarith

/-- Rounding keeps the ratio to a number close to one, unless it is smaller than every normal
value. -/
theorem within (near : NearestUnits x p) (normal : 2 ^ 52 ≤ x) :
    Within rounding (unitsOf p) x := by
  have large : 2 ^ 52 ≤ p := near.ge_of_ge (by rw [unitsOf_normal]; exact_mod_cast normal)
  obtain ⟨r, rfl⟩ := Nat.exists_eq_succ_of_ne_zero (show p ≠ 0 by omega)
  have above := near.le_middle_above
  have below := near.middle_below_le
  have size : (unitsOf (r + 1) : ℚ) = unitsOf r + step r := by exact_mod_cast unitsOf_succ r
  have next : (unitsOf (r + 1 + 1) : ℚ) = unitsOf (r + 1) + step (r + 1) := by
    exact_mod_cast unitsOf_succ (r + 1)
  have steps : (2 ^ 52 * step (r + 1) : ℚ) ≤ unitsOf (r + 1) := by exact_mod_cast le_unitsOf large
  have stepBelow : (2 ^ 52 * step r : ℚ) ≤ x := by
    obtain same | more := Nat.eq_or_lt_of_le large
    · have least : r = 2 ^ 52 - 1 := by omega
      have unit : step r = 1 := by
        rw [least]
        decide
      rw [unit]
      simpa using normal
    · have steps' : (2 ^ 52 * step r : ℚ) ≤ unitsOf r := by
        exact_mod_cast le_unitsOf (show 2 ^ 52 ≤ r by omega)
      have nonneg : (0 : ℚ) ≤ step r := Nat.cast_nonneg _
      linarith
  constructor
  · rw [rounding]
    linarith
  · rw [rounding]
    linarith

/-- Below all normal values rounding moves a number by half a unit at most. -/
theorem abs_sub_le_half (near : NearestUnits x p) (nonneg : 0 ≤ x) (small : x ≤ 2 ^ 52) :
    |(unitsOf p : ℚ) - x| ≤ 1 / 2 := by
  have few : p ≤ 2 ^ 52 := near.le_of_le (by rw [unitsOf_normal]; exact_mod_cast small)
  have unit {r : Nat} (low : r < 2 ^ 53) : step r = 1 := by
    have exponent : r / 2 ^ 52 - 1 = 0 := by omega
    rw [step, exponent, Nat.pow_zero]
  have above := near.le_middle_above
  have next : (unitsOf (p + 1) : ℚ) = unitsOf p + 1 := by
    rw [unitsOf_succ, unit (by omega)]
    push_cast
    ring
  rw [abs_le]
  constructor
  · linarith
  · cases p with
    | zero =>
      rw [show unitsOf 0 = 0 from rfl, Nat.cast_zero]
      linarith
    | succ r =>
      have below := near.middle_below_le
      have size : (unitsOf (r + 1) : ℚ) = unitsOf r + 1 := by
        rw [unitsOf_succ, unit (by omega)]
        push_cast
        ring
      linarith

end NearestUnits

end SensorRelay.Binary64
