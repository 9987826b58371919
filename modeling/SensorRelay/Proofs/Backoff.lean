import SensorRelay.Proofs.Duration
import SensorRelay.Proofs.Retry
import SensorRelay.Proofs.Settings.Layers

/-! # How long to wait before trying again

A wait grows by a factor with every attempt. Three things can cut it: the power of the factor has 32
bits, a span has 64 bits of seconds, and the policy has a cap. A span that is too long for its
seconds is past every cap, so only the bits of the power ever show (`nanoseconds_delayFor`). What is
computed in words, with the attempt cut to 32 bits besides, comes to the same (`delayInWords?_eq`).
-/

namespace SensorRelay.RetryPolicy

section Growth

/-- The growth of a wait is a power, cut to 32 bits. -/
theorem growth_eq (factor attempt : Nat) :
    growth factor attempt = min (max factor 1 ^ attempt) largestGrowth := by
  unfold growth
  split
  · next steady =>
    rw [Nat.max_eq_right steady, Nat.one_pow]
    rfl
  next grows =>
  have two : 2 ≤ factor := Nat.lt_of_not_le grows
  rw [Nat.max_eq_left (Nat.le_of_not_le grows)]
  split
  · next late =>
    have large : 2 ^ 32 ≤ factor ^ attempt :=
      calc 2 ^ 32 ≤ factor ^ 32 := Nat.pow_le_pow_left two 32
        _ ≤ factor ^ attempt := Nat.pow_le_pow_right (Nat.zero_lt_of_lt two) late
    exact (Nat.min_eq_right ((Nat.sub_le _ _).trans large)).symm
  · rfl

/-- From some attempt on nothing grows any more, so an attempt can be cut to 32 bits. -/
theorem growth_min_largestGrowth (factor attempt : Nat) :
    growth factor (min attempt largestGrowth) = growth factor attempt := by
  have late : 32 ≤ largestGrowth := by decide
  unfold growth
  split
  · rfl
  · next grows =>
    by_cases few : attempt ≤ largestGrowth
    · rw [Nat.min_eq_left few]
    · rw [Nat.min_eq_right (by omega), if_pos late, if_pos (by omega)]

end Growth

section Wait

variable {policy : RetryPolicy} {attempt later : Nat}

/-- The longest span does not show in a wait, since no cap is longer. -/
theorem nanoseconds_delayFor (policy : RetryPolicy) (attempt : Nat) :
    (policy.delayFor attempt).nanoseconds =
      min (policy.delay.nanoseconds * min (max policy.factor 1 ^ attempt) (2 ^ 32 - 1))
        policy.maxDelay.nanoseconds := by
  have cap := policy.maxDelay.le_longest
  rw [delayFor, Duration.nanoseconds_shorter, growth_eq]
  change min (min _ Duration.longest) _ = min _ _
  -- What is longer than the longest span is longer than the cap.
  unfold Duration.longest largestGrowth
  omega

theorem delayFor_mono (order : attempt ≤ later) :
    (policy.delayFor attempt).nanoseconds ≤ (policy.delayFor later).nanoseconds := by
  have powers : max policy.factor 1 ^ attempt ≤ max policy.factor 1 ^ later :=
    Nat.pow_le_pow_right (Nat.le_max_right _ _) order
  rw [nanoseconds_delayFor, nanoseconds_delayFor]
  refine min_le_min_right _ (Nat.mul_le_mul_left _ ?_)
  exact min_le_min_right _ powers

/-- A power that has to be cut makes no difference as long as the cap is reached without it. -/
theorem nanoseconds_delayFor_of_reached
    (reached : max policy.factor 1 ^ attempt ≤ 2 ^ 32 - 1 ∨
      policy.maxDelay.nanoseconds ≤ policy.delay.nanoseconds * (2 ^ 32 - 1)) :
    (policy.delayFor attempt).nanoseconds =
      min (policy.delay.nanoseconds * max policy.factor 1 ^ attempt)
        policy.maxDelay.nanoseconds := by
  rw [nanoseconds_delayFor]
  by_cases fits : max policy.factor 1 ^ attempt ≤ 2 ^ 32 - 1
  · rw [Nat.min_eq_left fits]
  · have large : 2 ^ 32 - 1 ≤ max policy.factor 1 ^ attempt := Nat.le_of_not_le fits
    have capped := reached.resolve_left fits
    have product := Nat.mul_le_mul_left policy.delay.nanoseconds large
    rw [Nat.min_eq_right large, Nat.min_eq_right capped, Nat.min_eq_right (capped.trans product)]

theorem nanoseconds_delayFor_of_cut (cut : ¬ max policy.factor 1 ^ attempt ≤ 2 ^ 32 - 1)
    (short : ¬ policy.maxDelay.nanoseconds ≤ policy.delay.nanoseconds * (2 ^ 32 - 1)) :
    (policy.delayFor attempt).nanoseconds = policy.delay.nanoseconds * (2 ^ 32 - 1) := by
  rw [nanoseconds_delayFor, Nat.min_eq_right (Nat.le_of_not_le cut),
    Nat.min_eq_left (Nat.le_of_not_le short)]

end Wait

section Words

/-- A product of 32 bits, cut to the largest. -/
def cutProduct (a b : UInt32) : UInt32 :=
  if a.toBitVec.umulOverflow b.toBitVec then 0xffffffff else a * b

/-- A power of 32 bits, cut to the largest. -/
def cutPower (base exponent : UInt32) : UInt32 := (cutProduct · base)^[exponent.toNat] 1

/-- An attempt of 32 bits, cut to the largest. -/
def cutAttempt (attempt : UInt64) : UInt32 :=
  if attempt ≤ 0xffffffff then attempt.toUInt32 else 0xffffffff

/-- How long to wait, computed in words. The attempt, the power of the factor and the product are
all cut to what their words can hold. There is no result if a step overflows that is not cut. -/
def delayInWords? (policy : RetryPolicy) (attempt : UInt64) : Option Duration.Words := do
  let factor := cutPower (max (.ofNat policy.factor) 1) (cutAttempt attempt)
  return (← policy.delay.words.times? factor).shorter policy.maxDelay.words

theorem toNat_cutProduct (a b : UInt32) :
    (cutProduct a b).toNat = min (a.toNat * b.toNat) largestGrowth := by
  unfold cutProduct BitVec.umulOverflow
  simp only [UInt32.toNat_toBitVec, ge_iff_le, decide_eq_true_eq]
  split
  · next large =>
    have cut : largestGrowth ≤ a.toNat * b.toNat := (Nat.sub_le _ _).trans large
    rw [Nat.min_eq_right cut]
    rfl
  · next fits =>
    rw [UInt32.toNat_mul, Nat.mod_eq_of_lt (Nat.lt_of_not_le fits)]
    exact (Nat.min_eq_left (by unfold largestGrowth; omega)).symm

/-- A product that was cut stays at the largest word, so cutting every product of a power is cutting
the power. -/
theorem toNat_iterate_cutProduct {base : UInt32} (positive : 0 < base.toNat) (count : Nat) :
    ((cutProduct · base)^[count] 1).toNat = min (base.toNat ^ count) largestGrowth := by
  induction count with
  | zero => rfl
  | succ count ih =>
    rw [Function.iterate_succ_apply', toNat_cutProduct, ih, Nat.pow_succ]
    by_cases fits : base.toNat ^ count ≤ largestGrowth
    · rw [Nat.min_eq_left fits]
    · have large : largestGrowth ≤ base.toNat ^ count := Nat.le_of_not_le fits
      have cut : largestGrowth ≤ largestGrowth * base.toNat := Nat.le_mul_of_pos_right _ positive
      have grown : largestGrowth ≤ base.toNat ^ count * base.toNat :=
        large.trans (Nat.le_mul_of_pos_right _ positive)
      rw [Nat.min_eq_right large, Nat.min_eq_right cut, Nat.min_eq_right grown]

theorem toNat_cutPower (factor exponent : UInt32) :
    (cutPower (max factor 1) exponent).toNat = growth factor.toNat exponent.toNat := by
  have base : (max factor 1).toNat = max factor.toNat 1 := UInt32.toNat_max factor 1
  rw [cutPower, toNat_iterate_cutProduct (by omega), base, growth_eq]

theorem toNat_cutAttempt (attempt : UInt64) :
    (cutAttempt attempt).toNat = min attempt.toNat largestGrowth := by
  unfold cutAttempt
  split
  · next few =>
    have few : attempt.toNat ≤ largestGrowth := UInt64.le_iff_toNat_le.mp few
    have word : attempt.toNat < 2 ^ 32 := Nat.lt_of_le_pred (by decide) few
    rw [UInt64.toNat_toUInt32, Nat.min_eq_left few, Nat.mod_eq_of_lt word]
  · next many =>
    have many : ¬ attempt.toNat ≤ largestGrowth := fun few => many (UInt64.le_iff_toNat_le.mpr few)
    rw [Nat.min_eq_right (Nat.le_of_not_le many)]
    rfl

/-- No step overflows unless it is cut, and the wait is the one that is not computed in words. -/
theorem delayInWords?_eq {policy : RetryPolicy} (fits : policy.factor < 2 ^ 32) (attempt : UInt64) :
    policy.delayInWords? attempt = some (policy.delayFor attempt.toNat).words := by
  have factor : (cutPower (max (.ofNat policy.factor) 1) (cutAttempt attempt)).toNat =
      growth policy.factor attempt.toNat := by
    rw [toNat_cutPower, toNat_cutAttempt, growth_min_largestGrowth, UInt32.toNat_ofNat_of_lt' fits]
  simp only [delayInWords?, Duration.times?_words, factor, Option.bind_eq_bind, Option.bind_some,
    Option.pure_def, Duration.shorter_words]
  rfl

end Words

section Resolved

theorem ofMilliseconds_cases (n : Nat) :
    (Duration.ofMilliseconds n).nanoseconds = 0 ∨
      10 ^ 6 ≤ (Duration.ofMilliseconds n).nanoseconds := by
  change min (n * 10 ^ 6) Duration.longest = 0 ∨ 10 ^ 6 ≤ min (n * 10 ^ 6) Duration.longest
  unfold Duration.longest
  omega

/-- The waits of settings double up to a second. A wait of a millisecond gets there before the power
is cut, and one of nothing stays. -/
theorem delayFor_of_merged {args : Settings.Arguments} {file : Settings.ConfigFile}
    {settings : Settings} (merged : Settings.Merged args file settings) (attempt : Nat) :
    (settings.retry.delayFor attempt).nanoseconds =
      min (settings.retry.delay.nanoseconds * 2 ^ attempt) (10 ^ 9) := by
  have factor : max settings.retry.factor 1 = 2 := by
    rw [merged.retryFactor]
    rfl
  have cap : settings.retry.maxDelay.nanoseconds = 10 ^ 9 := by
    rw [merged.retryCap]
    rfl
  have delay : settings.retry.delay = .ofMilliseconds _ :=
    (Settings.delay_iff 10 _ _ _).mp merged.retryDelay
  obtain nothing | enough : settings.retry.delay.nanoseconds = 0 ∨
      10 ^ 6 ≤ settings.retry.delay.nanoseconds := delay ▸ ofMilliseconds_cases _
  · rw [nanoseconds_delayFor, nothing, Nat.zero_mul, Nat.zero_mul, cap]
  · rw [nanoseconds_delayFor_of_reached (.inr (by omega)), factor, cap]

end Resolved

/-- A wait is the first one times a power of the factor, up to the cap. The power is cut to 32 bits,
so the product can fall short of the cap, and the wait then stays at the largest product. No wait is
longer than the cap or than a later one. In words no step overflows that is not cut, and the result
is the same. To the policy of settings the cut of the power makes no difference. -/
theorem delay_grows_exactly (policy : RetryPolicy) (attempt : Nat) :
    let factor := max policy.factor 1
    let delay := policy.delay.nanoseconds
    let cap := policy.maxDelay.nanoseconds
    let wait := (policy.delayFor attempt).nanoseconds
    wait ≤ cap ∧
      (∀ later, attempt ≤ later → wait ≤ (policy.delayFor later).nanoseconds) ∧
      (factor ^ attempt ≤ 2 ^ 32 - 1 ∨ cap ≤ delay * (2 ^ 32 - 1) →
        wait = min (delay * factor ^ attempt) cap) ∧
      (¬ (factor ^ attempt ≤ 2 ^ 32 - 1 ∨ cap ≤ delay * (2 ^ 32 - 1)) →
        wait = delay * (2 ^ 32 - 1)) ∧
      (policy.factor < 2 ^ 32 → attempt < 2 ^ 64 →
        policy.delayInWords? (.ofNat attempt) = some (policy.delayFor attempt).words) ∧
      ∀ args file settings, Settings.resolve args file = .ok settings →
        (settings.retry.delayFor attempt).nanoseconds =
          min (settings.retry.delay.nanoseconds * 2 ^ attempt) (10 ^ 9) := by
  intro factor delay cap wait
  refine ⟨policy.delayFor_le attempt, fun later order => delayFor_mono order, ?_, ?_, ?_, ?_⟩
  · exact nanoseconds_delayFor_of_reached
  · intro neither
    obtain ⟨cut, short⟩ := not_or.mp neither
    exact nanoseconds_delayFor_of_cut cut short
  · intro fits counted
    rw [delayInWords?_eq fits, UInt64.toNat_ofNat_of_lt' counted]
  · intro args file settings accepted
    exact delayFor_of_merged (Settings.merged_of_resolve accepted).2 attempt

/-- Three nanoseconds that grow three times with every attempt come to less than 13 seconds, although
they may come to a minute. Settings without a choice reach their second with the eighth attempt. -/
theorem delay_grows_exactly_short_of_cap :
    let policy : RetryPolicy := ⟨5, .ofNanoseconds 3, 3, .ofSeconds 60 0⟩
    ¬ (3 ^ 40 ≤ 2 ^ 32 - 1 ∨ policy.maxDelay.nanoseconds ≤ 3 * (2 ^ 32 - 1)) ∧
      (policy.delayFor 40).nanoseconds = 3 * (2 ^ 32 - 1) ∧
      20 ≤ 40 ∧ (policy.delayFor 20).nanoseconds ≤ (policy.delayFor 40).nanoseconds ∧
      3 ^ 20 ≤ 2 ^ 32 - 1 ∧ (policy.delayFor 20).nanoseconds = min (3 * 3 ^ 20) (60 * 10 ^ 9) ∧
      policy.factor < 2 ^ 32 ∧ 40 < 2 ^ 64 ∧
      policy.delayInWords? 40 = some ⟨12, 884901885⟩ ∧
      ∃ settings, Settings.resolve {} none = .ok settings ∧
        (settings.retry.delayFor 7).nanoseconds = min (10 ^ 7 * 2 ^ 7) (10 ^ 9) := by
  intro policy
  have short : ¬ (3 ^ 40 ≤ 2 ^ 32 - 1 ∨ policy.maxDelay.nanoseconds ≤ 3 * (2 ^ 32 - 1)) := by
    decide
  have fits : 3 ^ 20 ≤ 2 ^ 32 - 1 := by decide
  have factor : policy.factor < 2 ^ 32 := by decide
  obtain ⟨-, -, -, cut, words, -⟩ := delay_grows_exactly policy 40
  obtain ⟨-, order, reached, -⟩ := delay_grows_exactly policy 20
  obtain ⟨settings, accepted, delay⟩ : ∃ settings, Settings.resolve {} none = .ok settings ∧
      settings.retry.delay.nanoseconds = 10 ^ 7 := ⟨_, rfl, rfl⟩
  have computed : policy.delayInWords? 40 = some ⟨12, 884901885⟩ :=
    (words factor (by decide)).trans (by decide)
  have doubled := (delay_grows_exactly policy 7).2.2.2.2.2 {} none settings accepted
  rw [delay] at doubled
  exact ⟨short, cut short, by decide, order 40 (by decide), fits, reached (.inl fits), factor,
    by decide, computed, settings, accepted, doubled⟩

end SensorRelay.RetryPolicy
