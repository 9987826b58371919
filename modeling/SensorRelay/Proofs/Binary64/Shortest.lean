import SensorRelay.Proofs.Binary64.Decimal
import Mathlib.Data.Nat.Cast.Order.Field

/-! # The fewest digits tell a value

The search over grids of more and more digits always finds a decimal that reads back: on the last
grid, or on the one whose spacing is less than a unit, the decimals lie closer together than the
values (`onGrid?_isSome`). So the shortest decimal has the value as its nearest one, and no more than
seventeen digits (`shortest_spec`).
-/

namespace SensorRelay.Binary64

section Power

variable {a b : Nat}

/-- Tens are multiplied to a small number until it reaches one. -/
theorem placesAfterPoint_spec (positive : 0 < a) :
    b ≤ a * 10 ^ placesAfterPoint a b ∧
      ∀ k, placesAfterPoint a b = k + 1 → a * 10 ^ k < b := by
  fun_induction placesAfterPoint a b with
  | case1 a enough =>
    have reached : b ≤ a := enough.resolve_left (by omega)
    refine ⟨by simpa using reached, nofun⟩
  | case2 a few ih =>
    obtain ⟨reached, before⟩ := ih (by omega)
    have small : a < b := by omega
    constructor
    · rw [Nat.pow_succ, Nat.mul_comm (10 ^ _), ← Nat.mul_assoc]
      exact reached
    · intro k same
      obtain rfl : placesAfterPoint (a * 10) b = k := Nat.succ.inj same
      cases rest : placesAfterPoint (a * 10) b with
      | zero => simpa using small
      | succ k =>
        have less := before k rest
        rw [Nat.pow_succ, Nat.mul_comm (10 ^ k), ← Nat.mul_assoc]
        exact less

/-- The first digit of a quotient is what its power of ten says. -/
theorem leadingPower_spec (positive : 0 < a) (least : 0 < b) :
    (10 : ℚ) ^ leadingPower a b * b ≤ a ∧ (a : ℚ) < 10 ^ (leadingPower a b + 1) * b := by
  unfold leadingPower
  split
  · next reached =>
    have whole : 1 ≤ a / b := (Nat.one_le_div_iff least).mpr reached
    obtain ⟨k, length⟩ := Numeral.exists_length_ofNat (a / b)
    obtain ⟨below, above⟩ := Numeral.bounds_of_length whole length
    have power : (((Numeral.ofNat (a / b)).length : Int) - 1) = k := by omega
    rw [power, zpow_natCast, ← Nat.cast_succ, zpow_natCast]
    have first : 10 ^ k * b ≤ a := (Nat.le_div_iff_mul_le least).mp below
    have second : a < 10 ^ (k + 1) * b := (Nat.div_lt_iff_lt_mul least).mp above
    constructor
    · exact_mod_cast first
    · exact_mod_cast second
  · next less =>
    obtain ⟨reached, before⟩ := placesAfterPoint_spec positive
    obtain ⟨k, places⟩ : ∃ k, placesAfterPoint a b = k + 1 := by
      refine Nat.exists_eq_succ_of_ne_zero fun zero => less ?_
      rw [zero] at reached
      simpa using reached
    have small := before k places
    rw [places] at reached ⊢
    have reached' : (b : ℚ) ≤ a * 10 ^ (k + 1) := by exact_mod_cast reached
    have small' : (a : ℚ) * 10 ^ k < b := by exact_mod_cast small
    have power : -((k + 1 : Nat) : Int) + 1 = -k := by omega
    rw [power, zpow_neg, zpow_neg, zpow_natCast, zpow_natCast]
    have positive' : (0 : ℚ) < 10 ^ k := by positivity
    constructor
    · rw [inv_mul_le_iff₀ (by positivity), mul_comm]
      exact reached'
    · rw [inv_mul_eq_div, lt_div_iff₀ positive']
      exact small'

end Power

section Grid

variable {r : Nat} {e : Int}

/-- The quotient that is rounded counts how often the spacing fits into a value. -/
private theorem quotient_eq (p : Nat) (e : Int) :
    ((unitsOf p * 10 ^ (-e).toNat : Nat) : ℚ) / (one * 10 ^ e.toNat : Nat) =
      unitsOf p / spacing e := by
  unfold spacing
  have unit := unit_pos.ne'
  have ten : (10 : ℚ) ≠ 0 := by norm_num
  obtain ⟨k, rfl | rfl⟩ := Int.eq_nat_or_neg e
  · have zero : (-(k : Int)).toNat = 0 := by omega
    rw [zero, Int.toNat_natCast, zpow_natCast]
    push_cast
    rw [mul_one, mul_comm (one : ℚ)]
  · have zero : (-(k : Int)).toNat = 0 := by omega
    have power : (- -(k : Int)).toNat = k := by omega
    rw [zero, power, zpow_neg, zpow_natCast]
    push_cast
    field_simp

/-- The decimal on a grid that is nearest to a value is at most half of the spacing away. -/
private theorem abs_nearer_sub_le (p : Nat) (e : Int) :
    |Decimal.units ⟨roundQuotient (unitsOf p * 10 ^ (-e).toNat) (one * 10 ^ e.toNat), e⟩ -
      unitsOf p| ≤ spacing e / 2 := by
  have positive : 0 < one * 10 ^ e.toNat := Nat.mul_pos one_pos (Nat.pow_pos (by decide))
  have half := abs_roundQuotient_sub_le (a := unitsOf p * 10 ^ (-e).toNat) positive
  rw [quotient_eq] at half
  have wide := spacing_pos e
  have scaled := mul_le_mul_of_nonneg_right half wide.le
  rw [← abs_of_pos wide, ← abs_mul, abs_of_pos wide, sub_mul, div_mul_cancel₀ _ wide.ne',
    ← units_eq] at scaled
  linarith

/-- Decimals that lie closer than the values around a value do tell it. -/
theorem onGrid?_isSome (finite : r + 1 < infinityPattern) (fine : spacing e < step r) :
    (onGrid? (r + 1) e).isSome = true := by
  have half := abs_nearer_sub_le (r + 1) e
  unfold onGrid?
  dsimp only
  generalize roundQuotient _ _ = n at half ⊢
  obtain ⟨below, above⟩ := abs_le.mp half
  have size : (unitsOf (r + 1) : ℚ) = unitsOf r + step r := by exact_mod_cast unitsOf_succ r
  have next : (unitsOf (r + 1 + 1) : ℚ) = unitsOf (r + 1) + step (r + 1) := by
    exact_mod_cast unitsOf_succ (r + 1)
  have wider : (step r : ℚ) ≤ step (r + 1) := by exact_mod_cast step_mono (Nat.le_succ r)
  have nonneg : (0 : ℚ) ≤ unitsOf r := Nat.cast_nonneg _
  obtain ⟨q, near, read⟩ := nearestDecimal_spec n e
  -- Half a spacing does not reach the middle to a neighbour, and the step below is the shorter one.
  have same : q = r + 1 := by
    refine near.eq_of_between ?_ (by linarith)
    intro s equal
    obtain rfl : s = r := Nat.succ.inj equal
    linarith
  rw [same, Nat.min_eq_left finite.le] at read
  simp only [read, beq_self_eq_true, if_true, Option.isSome_some]

/-- What is found on a grid reads back, and is one of the two neighbours of the value. -/
theorem of_onGrid? {p : Nat} {d : Decimal} (found : onGrid? p e = some d) :
    d.exponent = e ∧ nearestDecimal d.coefficient e = p ∧
      (d.coefficient : ℚ) ≤ unitsOf p / spacing e + 1 := by
  have floor := Nat.cast_div_le (α := ℚ) (m := unitsOf p * 10 ^ (-e).toNat)
    (n := one * 10 ^ e.toNat)
  rw [quotient_eq] at floor
  unfold onGrid? at found
  dsimp only at found
  generalize unitsOf p * 10 ^ (-e).toNat = a, one * 10 ^ e.toNat = b at floor found
  have neighbour {n : Nat} (next : n ≤ a / b + 1) : (n : ℚ) ≤ unitsOf p / spacing e + 1 := by
    have next' : (n : ℚ) ≤ (a / b : Nat) + 1 := by exact_mod_cast next
    linarith
  have nearer : roundQuotient a b ≤ a / b + 1 := by
    unfold roundQuotient
    dsimp only
    split_ifs <;> omega
  have farther : (if roundQuotient a b = a / b then a / b + 1 else a / b) ≤ a / b + 1 := by
    split_ifs <;> omega
  generalize roundQuotient a b = n at nearer farther found
  generalize (if n = a / b then a / b + 1 else a / b) = m at farther found
  split at found
  · next read =>
    cases found
    exact ⟨rfl, beq_iff_eq.mp read, neighbour nearer⟩
  · split at found
    · next read =>
      cases found
      exact ⟨rfl, beq_iff_eq.mp read, neighbour farther⟩
    · cases found

/-- Seventeen digits are enough, and no digit is needed beyond the one that is less than a unit. -/
theorem exists_fine (r : Nat) :
    ∃ e, -(lastPlace : Int) ≤ e ∧ leadingPower (unitsOf (r + 1)) one - 16 ≤ e ∧
      e ≤ leadingPower (unitsOf (r + 1)) one ∧ spacing e < step r := by
  have positive : 0 < unitsOf (r + 1) := by
    rw [unitsOf_succ]
    exact Nat.lt_of_lt_of_le (step_pos r) (Nat.le_add_left _ _)
  obtain ⟨below, above⟩ := leadingPower_spec positive one_pos
  generalize leadingPower (unitsOf (r + 1)) one = power at below above ⊢
  have unit : (1 : ℚ) ≤ unitsOf (r + 1) := by exact_mod_cast positive
  have stepped : (1 : ℚ) ≤ step r := by exact_mod_cast step_pos r
  have least : -(lastPlace : Int) ≤ power := by
    have less : spacing (-lastPlace) < 10 ^ (power + 1) * one := by linarith [spacing_lt_one]
    have powers := lt_of_mul_lt_mul_right less unit_pos.le
    have := (zpow_lt_zpow_iff_right₀ (show (1 : ℚ) < 10 by norm_num)).mp powers
    omega
  -- Sixteen more places suffice, unless the place that is less than a unit comes first.
  by_cases coarse : power - 16 ≤ -lastPlace
  · exact ⟨-lastPlace, le_rfl, coarse, least, by linarith [spacing_lt_one]⟩
  · refine ⟨power - 16, by omega, le_rfl, by omega, ?_⟩
    have places : (10 : ℚ) ^ (power - 16) * 10 ^ 16 = 10 ^ power := by
      rw [← zpow_natCast, ← zpow_add₀ (by norm_num), Nat.cast_ofNat, sub_add_cancel]
    have size : spacing (power - 16) * 10 ^ 16 = 10 ^ power * one := by
      rw [spacing, mul_right_comm, places]
    have few : (unitsOf (r + 1) : ℚ) ≤ 2 ^ 53 * step r := by exact_mod_cast unitsOf_succ_le r
    have less : (2 : ℚ) ^ 53 * step r < 10 ^ 16 * step r :=
      mul_lt_mul_of_pos_right (by norm_num) (by linarith)
    refine lt_of_mul_lt_mul_right ?_ (show (0 : ℚ) ≤ 10 ^ 16 by norm_num)
    rw [size, mul_comm (step r : ℚ)]
    linarith

/-- The first index at which a search succeeds is not behind any other. -/
private theorem first_of_findSome? {α : Type} {f : Nat → Option α} {n i : Nat} {a : α}
    (found : (List.range n).findSome? f = some a) (inside : i < n) (isSome : (f i).isSome = true) :
    ∃ j ≤ i, f j = some a := by
  obtain ⟨before, j, after, split, here, earlier⟩ := List.findSome?_eq_some_iff.mp found
  refine ⟨j, ?_, here⟩
  by_contra later
  have position : j = before.length := by
    have there : (List.range n)[before.length]? = some j := by simp [split]
    have inside := (List.getElem?_eq_some_iff.mp there).1
    rw [List.getElem?_range (by simpa using inside)] at there
    exact (Option.some.inj there).symm
  have listed : i ∈ before := by
    have shared : (before ++ j :: after)[i]? = before[i]? := List.getElem?_append_left (by omega)
    have there : before[i]? = some i := by rw [← shared, ← split, List.getElem?_range inside]
    exact List.mem_of_getElem? there
  rw [earlier i listed] at isSome
  cases isSome

end Grid

/-- The shortest decimal that reads back has few digits, none of them less than a unit. -/
theorem shortest_spec {p : Nat} (positive : 0 < p) (finite : p < infinityPattern) :
    0 < (shortest p).coefficient ∧ (shortest p).coefficient ≤ 10 ^ 17 ∧
      -(lastPlace : Int) ≤ (shortest p).exponent ∧ NearestUnits (shortest p).units p := by
  obtain ⟨r, rfl⟩ := Nat.exists_eq_succ_of_ne_zero positive.ne'
  obtain ⟨e, low, inside, high, fine⟩ := exists_fine r
  have works := onGrid?_isSome finite fine
  obtain ⟨_, above⟩ := leadingPower_spec (unitsOf_pos positive) one_pos
  unfold shortest
  dsimp only
  rw [List.findSome?_map, Function.comp_def]
  generalize leadingPower (unitsOf (r + 1)) one = power at inside high above ⊢
  obtain ⟨i, rfl⟩ : ∃ i : Nat, e = power - i := ⟨(power - e).toNat, by omega⟩
  have listed : i < mostPrecise := by
    simp only [mostPrecise]
    omega
  cases found : (List.range mostPrecise).findSome? fun (place : Nat) =>
      onGrid? (r + 1) (power - place) with
  | none =>
    have nothing := List.findSome?_eq_none_iff.mp found i (List.mem_range.mpr listed)
    rw [nothing] at works
    cases works
  | some d =>
    obtain ⟨j, le, here⟩ := first_of_findSome? found listed works
    obtain ⟨same, read, few⟩ := of_onGrid? here
    rw [Option.getD_some]
    rw [← same] at read
    obtain ⟨significant, near⟩ := nearest_of_nearestDecimal positive finite read
    refine ⟨significant, ?_, by omega, near⟩
    have size : (10 : ℚ) ^ (power + 1) * one = 10 ^ (j + 1) * spacing (power - j) := by
      have sum : power + 1 = (j + 1 : Nat) + (power - j) := by omega
      rw [sum, zpow_add₀ (by norm_num), zpow_natCast, spacing, mul_assoc]
    rw [size, ← div_lt_iff₀ (spacing_pos _)] at above
    have places : (10 : ℚ) ^ (j + 1) ≤ 10 ^ 17 :=
      pow_le_pow_right₀ (by norm_num) (by simp only [mostPrecise] at listed; omega)
    have less : (d.coefficient : ℚ) < (10 ^ 17 + 1 : Nat) := by
      push_cast
      linarith
    exact Nat.lt_succ_iff.mp (Nat.cast_lt.mp less)

end SensorRelay.Binary64
