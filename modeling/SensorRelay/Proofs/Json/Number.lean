import SensorRelay.Except
import SensorRelay.Proofs.Binary64.Spelling
import SensorRelay.Proofs.Json.Scale

/-! # Numbers read back

A number that stands before something else is read up to there (`Ends`). A whole number within 64
bits is read as itself. Digits with a point or an exponent are gathered into the decimal that they
spell and scaled, so what a finite value is written as gives back a value that is at most three
steps away from it (`expectNumber_shortestText`).
-/

namespace SensorRelay.Json

open Binary64

/-- No digit follows. -/
def Stops (rest : List Char) : Prop := ∀ c ∈ rest.head?, Numeral.isDigit c = false

/-- Nothing follows that a number goes on with: no digit, no point and no exponent. -/
def Ends (rest : List Char) : Prop :=
  ∀ c ∈ rest.head?, Numeral.isDigit c = false ∧ c ≠ '.' ∧ c ≠ 'e' ∧ c ≠ 'E'

theorem Ends.stops {rest : List Char} (ends : Ends rest) : Stops rest :=
  fun c ahead => (ends c ahead).1

theorem stops_cons {c : Char} (other : Numeral.isDigit c = false) (rest : List Char) :
    Stops (c :: rest) := by
  intro d ahead
  obtain rfl := Option.some.inj ahead
  exact other

section Digits

variable {digits : List Char} {start : Nat}

/-- Digits are all gathered when they make a number of 64 bits. -/
theorem gather_eq (fits : Numeral.valueFrom start digits ≤ maxSignificand) :
    gather start digits = (Numeral.valueFrom start digits, digits.length) := by
  induction digits generalizing start with
  | nil => rfl
  | cons c others ih =>
    have next : start * 10 + (c.toNat - 48) ≤ maxSignificand :=
      (Numeral.le_valueFrom _ others).trans fits
    rw [gather]
    dsimp only
    rw [if_neg (Nat.not_lt.mpr next), ih fits]
    rfl

end Digits

section Scan

variable {negative : Bool} {c : Nat} {e : Int} {rest : List Char}

theorem scanExponent_exponentText {power : Int} (stops : Stops rest) :
    scanExponent ((exponentText power).tail ++ rest) = .ok (power, rest) := by
  obtain ⟨d, others, digits, digit⟩ := Numeral.ofNat_eq_cons power.natAbs
  have all : ∀ c ∈ Numeral.ofNat power.natAbs, Numeral.isDigit c = true :=
    fun _ => Numeral.isDigit_of_mem_ofNat
  obtain ⟨taken, left⟩ := Numeral.span_digits all stops
  have value := Numeral.valueFrom_ofNat power.natAbs
  unfold exponentText
  rw [digits, List.cons_append] at taken left
  rw [digits] at value ⊢
  by_cases below : power < 0
  · have size : -(power.natAbs : Int) = power := by omega
    simp only [List.tail_cons, List.cons_append, below, if_true, scanExponent, digit, taken, left,
      value, size]
  · have size : (power.natAbs : Int) = power := by omega
    simp only [List.tail_cons, List.cons_append, below, if_false, scanExponent, digit, if_true,
      taken, left, value, size, Bool.false_eq_true]

theorem scanScale_exponentText {power : Int} (short : power.natAbs < 10 ^ 9) (ends : Ends rest) :
    scanScale negative c e (exponentText power ++ rest) =
      (real negative c (e + power)).map (·, rest) := by
  have counted : power.natAbs ≤ maxExponent := by
    simp only [maxExponent]
    omega
  have scanned : scanExponent ((exponentText power).tail ++ rest) = .ok (power, rest) :=
    scanExponent_exponentText ends.stops
  have letter : exponentText power = 'e' :: (exponentText power).tail := rfl
  rw [letter, List.cons_append, scanScale, if_pos (.inl rfl), scanned]
  simp only [Except.bind_eq_bind, Except.ok_bind, if_pos counted]
  cases real negative c (e + power) <;> rfl

theorem scanScale_of_ends (ends : Ends rest) :
    scanScale negative c e rest = (real negative c e).map (·, rest) := by
  cases rest with
  | nil =>
    rw [scanScale]
    cases real negative c e <;> rfl
  | cons d others =>
    obtain ⟨-, -, lower, upper⟩ := ends d rfl
    rw [scanScale, if_neg (by simp [lower, upper])]
    cases real negative c e <;> rfl

theorem scanFraction_eq {digits : List Char} (fraction : Digits digits)
    (fits : Numeral.valueFrom c digits ≤ maxSignificand) (stops : Stops rest) :
    scanFraction negative c e (digits ++ rest) =
      scanScale negative (Numeral.valueFrom c digits) (e - digits.length) rest := by
  obtain ⟨taken, left⟩ := Numeral.span_digits fraction.all stops
  rw [scanFraction, taken, left, gather_eq fits]
  simp [fraction.nonempty]

/-- A number starts with its digits, all of them when they make a number of 64 bits. -/
theorem scanUnsigned_eq {digits : List Char} (lean : LeanDigits digits)
    (fits : Numeral.valueFrom 0 digits ≤ maxSignificand) :
    Stops rest → scanUnsigned negative (digits ++ rest) = match rest with
      | '.' :: fraction => scanFraction negative (Numeral.valueFrom 0 digits) 0 fraction
      | c :: _ =>
        if c = 'e' ∨ c = 'E' then scanScale negative (Numeral.valueFrom 0 digits) 0 rest
        else (whole negative digits).map (·, rest)
      | [] => (whole negative digits).map (·, rest) := by
  intro stops
  obtain ⟨taken, left⟩ := Numeral.span_digits lean.all stops
  have exponent : ((digits.length : Int) - digits.length) = 0 := Int.sub_self _
  have bound : (whole negative digits >>= fun n => pure (n, rest)) =
      (whole negative digits).map (·, rest) := by
    cases whole negative digits <;> rfl
  rw [scanUnsigned, taken, left, gather_eq fits]
  dsimp only
  rw [exponent, bound]
  split
  · exact absurd rfl lean.nonempty
  · exact absurd (lean.lean _ rfl) (List.cons_ne_nil _ _)
  · rfl

/-- What spells a decimal is read as that decimal. -/
theorem scanUnsigned_of_spells {text : List Char} {d : Decimal} (spells : Spells text d)
    (fits : d.coefficient ≤ maxSignificand) (ends : Ends rest) :
    scanUnsigned negative (text ++ rest) =
      (real negative d.coefficient d.exponent).map (·, rest) := by
  have letter (power : Int) : Stops (exponentText power ++ rest) := stops_cons rfl _
  cases spells with
  | @point whole fraction first second =>
    rw [Numeral.valueFrom_append] at fits ⊢
    have fits' := (Numeral.le_valueFrom _ fraction).trans fits
    rw [List.append_assoc, List.cons_append, scanUnsigned_eq first fits' (stops_cons rfl _)]
    change scanFraction negative (Numeral.valueFrom 0 whole) 0 (fraction ++ rest) = _
    rw [scanFraction_eq second fits ends.stops, scanScale_of_ends ends, Int.zero_sub]
  | @power whole first power short =>
    have scaled : scanScale negative (Numeral.valueFrom 0 whole) 0 (exponentText power ++ rest) =
        _ := scanScale_exponentText short ends
    rw [Int.zero_add] at scaled
    rw [List.append_assoc, scanUnsigned_eq first fits (letter power)]
    exact scaled
  | @both whole fraction first second power short =>
    rw [Numeral.valueFrom_append] at fits ⊢
    have fits' := (Numeral.le_valueFrom _ fraction).trans fits
    have exponent : 0 - (fraction.length : Int) + power = power - fraction.length := by omega
    rw [List.append_assoc, List.cons_append, List.append_assoc,
      scanUnsigned_eq first fits' (stops_cons rfl _)]
    change scanFraction negative (Numeral.valueFrom 0 whole) 0
      (fraction ++ (exponentText power ++ rest)) = _
    rw [scanFraction_eq second fits (letter power), scanScale_exponentText short ends, exponent]

theorem leanDigits_ofNat (n : Nat) : LeanDigits (Numeral.ofNat n) where
  all _ := Numeral.isDigit_of_mem_ofNat
  nonempty := Numeral.ofNat_ne_nil n
  lean others same := by
    obtain rfl | positive := Nat.eq_zero_or_pos n
    · exact (List.cons.inj same).2.symm
    · exact absurd rfl (Numeral.head_ne_zero positive same)

/-- A whole number of 64 bits is gathered as a whole. -/
theorem scanUnsigned_ofNat {n : Nat} (fits : n ≤ maxSignificand) (ends : Ends rest) :
    scanUnsigned negative (Numeral.ofNat n ++ rest) =
      (whole negative (Numeral.ofNat n)).map (·, rest) := by
  have value : Numeral.valueFrom 0 (Numeral.ofNat n) ≤ maxSignificand := by
    rwa [Numeral.valueFrom_ofNat]
  rw [scanUnsigned_eq (leanDigits_ofNat n) value ends.stops]
  cases rest with
  | nil => rfl
  | cons d others =>
    obtain ⟨-, point, lower, upper⟩ := ends d rfl
    split
    · next same => exact absurd (List.cons.inj same).1 point
    · next same =>
      obtain ⟨rfl, -⟩ := List.cons.inj same
      rw [if_neg (by simp [lower, upper])]
    · rfl

theorem whole_ofNat {n : Nat} (fits : n ≤ maxSignificand) :
    whole negative (Numeral.ofNat n) =
      if !negative then .ok (.natural n)
      else if 0 < n ∧ n ≤ 2 ^ 63 then .ok (.negative n)
      else .ok (.real (ofPattern true (nearestNat n))) := by
  have value := Numeral.valueFrom_ofNat n
  rw [whole, gather_eq (by rwa [value]), value]
  dsimp only
  rw [if_neg (Nat.lt_irrefl _)]

/-- A sign decides how the digits after it are read. -/
theorem expectNumber_eq {text : List Char}
    (digit : ∀ c ∈ text.head?, Numeral.isDigit c = true) (nonempty : text ≠ []) :
    expectNumber ((if negative then '-' :: text else text) ++ rest) =
      scanUnsigned negative (text ++ rest) := by
  obtain ⟨d, others, rfl⟩ := List.exists_cons_of_ne_nil nonempty
  have digit : Numeral.isDigit d = true := digit d rfl
  cases negative with
  | true => rfl
  | false =>
    have visible : isBlank d = false := by
      unfold isBlank
      rw [Numeral.isDigit_eq, Char.isDigit] at digit
      simp only [Bool.or_eq_false_iff, beq_eq_false_iff_ne]
      refine ⟨⟨⟨?_, ?_⟩, ?_⟩, ?_⟩ <;> (rintro rfl; contradiction)
    have unsigned : d ≠ '-' := by
      rintro rfl
      contradiction
    have first : skipBlanks (d :: (others ++ rest)) = d :: (others ++ rest) := by
      rw [skipBlanks, List.dropWhile_cons, visible]
      rfl
    simp only [Bool.false_eq_true, if_false, List.cons_append, expectNumber, first, digit, or_true,
      if_true]
    unfold scanNumber
    split
    · next same => exact absurd (List.cons.inj same).1 unsigned
    · rfl

/-- A whole number of 64 bits is read as itself. -/
theorem expectNumber_ofInt {n : Int} (low : -(2 ^ 63 : Int) ≤ n) (high : n < 2 ^ 63)
    (ends : Ends rest) :
    expectNumber (Numeral.ofInt n ++ rest) =
      .ok (if n < 0 then .negative n.natAbs else .natural n.natAbs, rest) := by
  have fits : n.natAbs ≤ maxSignificand := by
    simp only [maxSignificand]
    omega
  have digits : ∀ c ∈ (Numeral.ofNat n.natAbs).head?, Numeral.isDigit c = true :=
    fun c first => Numeral.isDigit_of_mem_ofNat (List.mem_of_mem_head? first)
  have read : expectNumber ((if decide (n < 0) then '-' :: Numeral.ofNat n.natAbs
      else Numeral.ofNat n.natAbs) ++ rest) = _ := expectNumber_eq digits (Numeral.ofNat_ne_nil _)
  rw [scanUnsigned_ofNat fits ends, whole_ofNat fits] at read
  simp only [decide_eq_true_eq] at read
  rw [Numeral.ofInt, read]
  by_cases below : n < 0
  · have size : 0 < n.natAbs ∧ n.natAbs ≤ 2 ^ 63 := by omega
    simp only [below, decide_true, Bool.not_true, Bool.false_eq_true, if_false, size, and_self,
      if_true]
    rfl
  · simp only [below, decide_false, Bool.not_false, if_true, if_false]
    rfl

end Scan

section Value

/-- The value that a decimal is read as, the one it was written for being known: its digits are
converted and scaled by its power of ten, which misses that value by three steps at most, and hits
it when the digits and the power are small enough. -/
structure NearlyReads (d : Decimal) (written read : Binary64) : Prop where
  scaled : scale (nearestNat d.coefficient) d.exponent = .ok read.pattern
  finite : read.isFinite = true
  sign : read.isNegative = written.isNegative
  above : read.pattern ≤ written.pattern + 3
  below : written.pattern ≤ read.pattern + 3
  same : d.coefficient ≤ 2 ^ 53 → d.exponent.natAbs ≤ 22 → read = written

/-- Nothing but the scaling can change a value. -/
theorem NearlyReads.eq_iff {d : Decimal} {written read : Binary64}
    (near : NearlyReads d written read) :
    read = written ↔ scale (nearestNat d.coefficient) d.exponent = .ok written.pattern := by
  constructor
  · rintro rfl
    exact near.scaled
  · intro scaled
    have pattern : read.pattern = written.pattern := Except.ok.inj (near.scaled.symm.trans scaled)
    rw [← ofPattern_pattern read, near.sign, pattern, ofPattern_pattern]

/-- The two largest finite values are both read as the largest. -/
private theorem scale_largest {p : Nat} (finite : p < infinityPattern)
    (last : infinityPattern ≤ p + 2) :
    scale (nearestNat (shortest p).spelled.coefficient) (shortest p).spelled.exponent =
      .ok (infinityPattern - 1) ∧ (shortest p).spelled.exponent = (292 : Nat) := by
  have scaled {c : Nat} (product : timesPattern (nearestNat c) (powerOfTen 292) =
      infinityPattern - 1) (nonzero : nearestNat c ≠ 0) :
      scale (nearestNat c) (292 : Nat) = .ok (infinityPattern - 1) := by
    rw [← product]
    exact scale_up nonzero (by decide) (by rw [product]; decide)
  obtain rfl | rfl : p = infinityPattern - 2 ∨ p = infinityPattern - 1 := by omega
  · have spelled : (shortest (infinityPattern - 2)).spelled = ⟨17976931348623155, (292 : Nat)⟩ := by
      decide +kernel
    rw [spelled]
    exact ⟨scaled (by decide +kernel) (by decide +kernel), rfl⟩
  · have spelled : (shortest (infinityPattern - 1)).spelled = ⟨17976931348623157, (292 : Nat)⟩ := by
      decide +kernel
    rw [spelled]
    exact ⟨scaled (by decide +kernel) (by decide +kernel), rfl⟩

/-- What the shortest decimal of a positive value is scaled to. -/
private theorem scale_shortest {p : Nat} (positive : 0 < p) (finite : p < infinityPattern) :
    ∃ q, scale (nearestNat (shortest p).spelled.coefficient) (shortest p).spelled.exponent =
        .ok q ∧ q < infinityPattern ∧ q ≤ p + 3 ∧ p ≤ q + 3 ∧
      ((shortest p).spelled.coefficient ≤ 2 ^ 53 → (shortest p).spelled.exponent.natAbs ≤ 22 →
        q = p) := by
  obtain ⟨-, near, significant, few, low, high⟩ := spells_shortestSize positive finite
  -- Two steps above the last two values there is no finite one, so these are computed.
  by_cases room : p + 2 < infinityPattern
  · exact scale_near significant (few.trans (Nat.pow_le_pow_right (by decide) (by decide))) low
      high near room
  · obtain ⟨scaled, exponent⟩ := scale_largest finite (Nat.not_lt.mp room)
    refine ⟨_, scaled, by decide, by omega, by omega, fun _ small => ?_⟩
    rw [exponent] at small
    exact absurd small (by decide)

/-- What a finite value is written as is read as a value that is nearly the same. -/
theorem expectNumber_shortestText {x : Binary64} (finite : x.isFinite = true) :
    ∃ d y, Spells (shortestSize x.pattern) d ∧ NearlyReads d x y ∧ ∀ rest, Ends rest →
      expectNumber (x.shortestText ++ rest) = .ok (.real y, rest) := by
  have less : x.pattern < infinityPattern := by simpa [isFinite] using finite
  obtain ⟨d, q, spells, few, scaled, small, above, below, same⟩ : ∃ d q,
      Spells (shortestSize x.pattern) d ∧ d.coefficient ≤ maxSignificand ∧
      scale (nearestNat d.coefficient) d.exponent = .ok q ∧ q < infinityPattern ∧
      q ≤ x.pattern + 3 ∧ x.pattern ≤ q + 3 ∧
      (d.coefficient ≤ 2 ^ 53 → d.exponent.natAbs ≤ 22 → q = x.pattern) := by
    obtain zero | positive := Nat.eq_zero_or_pos x.pattern
    · have nothing : nearestNat 0 = 0 := by decide +kernel
      have scaled : scale (nearestNat 0) (-1) = .ok 0 := by rw [nothing, scale_zero]
      rw [zero]
      exact ⟨⟨0, -1⟩, 0, .point Digits.zero Digits.zero.toDigits, Nat.zero_le _, scaled, by decide,
        by decide, by decide, fun _ _ => rfl⟩
    · obtain ⟨spells, -, -, few, -⟩ := spells_shortestSize positive less
      obtain ⟨q, read⟩ := scale_shortest positive less
      exact ⟨_, q, spells, few.trans (by decide), read⟩
  have fits : q < 2 ^ 63 := small.trans (by decide)
  refine ⟨d, ofPattern x.isNegative q, spells, ⟨?_, ?_, isNegative_ofPattern fits, ?_, ?_, ?_⟩, ?_⟩
  · rwa [pattern_ofPattern fits]
  · simpa [isFinite, pattern_ofPattern fits] using small
  · rwa [pattern_ofPattern fits]
  · rwa [pattern_ofPattern fits]
  · intro short low
    rw [same short low]
    exact ofPattern_pattern x
  · intro rest ends
    obtain ⟨digit, nonempty⟩ := spells.starts
    rw [shortestText, expectNumber_eq digit nonempty, scanUnsigned_of_spells spells few ends, real,
      scaled]
    rfl

end Value

end SensorRelay.Json
