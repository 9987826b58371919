import SensorRelay.Proofs.Duration
import SensorRelay.Retry
import Mathlib.Algebra.Order.BigOperators.Group.List
import Mathlib.Data.ENat.Lattice

/-! # How often an operation is tried

An operation is called until one of its results settles the matter or the attempts of the policy are
used up. `Tried` says what the attempts from some index on amount to; each attempt either is the last
one, or leaves it to those after it (`tried_retryFrom`). Which of the two reasons ends them decides
how many there are (`calls_eq_min`).
-/

namespace SensorRelay

namespace RetryPolicy

variable {ε α : Type} {policy : RetryPolicy} {attempt i n : Nat}

/-- A result that settles the matter: a success, or a fault that trying again cannot mend. -/
def settles (retryable : ε → Bool) : Except ε α → Bool
  | .ok _ => true
  | .error fault => !retryable fault

/-- The number of the first call that settles the matter, counted from one. It is infinite if no call
ever does. -/
noncomputable def settledAt (retryable : ε → Bool) (results : Nat → Except ε α) : ℕ∞ :=
  ⨅ i, ⨅ _ : settles retryable (results i) = true, ((i + 1 : Nat) : ℕ∞)

section SettledAt

variable {retryable : ε → Bool} {results : Nat → Except ε α}

theorem settledAt_le (settled : settles retryable (results i) = true) :
    settledAt retryable results ≤ ((i + 1 : Nat) : ℕ∞) :=
  iInf₂_le i settled

theorem le_settledAt (unsettled : ∀ i, i + 1 < n → settles retryable (results i) = false) :
    (n : ℕ∞) ≤ settledAt retryable results := by
  apply le_iInf₂
  intro i settled
  apply Nat.cast_le.mpr
  by_contra early
  have other := unsettled i (by omega)
  rw [settled] at other
  cases other

end SettledAt

theorem delayFor_le (policy : RetryPolicy) (attempt : Nat) :
    (policy.delayFor attempt).nanoseconds ≤ policy.maxDelay.nanoseconds := by
  rw [delayFor, Duration.nanoseconds_shorter]
  exact Nat.min_le_right _ _

theorem next?_eq_some_iff {retryable : Bool} {delay : Duration} :
    policy.next? attempt retryable = some delay ↔
      retryable = true ∧ attempt + 1 < policy.attempts ∧ policy.delayFor attempt = delay := by
  simp [next?, and_assoc]

theorem next?_eq_none_iff {retryable : Bool} :
    policy.next? attempt retryable = none ↔
      retryable = false ∨ policy.attempts ≤ attempt + 1 := by
  cases retryable <;> simp [next?]

section Retry

variable [ToString ε] (policy : RetryPolicy) (operation : String) (retryable : ε → Bool)
  (results : Nat → Except ε α)

/-- What the attempts from an index on amount to. -/
structure Tried (attempt : Nat) (trial : Trial ε α) : Prop where
  called : 0 < trial.calls
  within : attempt + trial.calls ≤ policy.attempts
  /-- No call but the last one settles the matter. -/
  unsettled : ∀ i, i + 1 < trial.calls → settles retryable (results (attempt + i)) = false
  stops : settles retryable (results (attempt + (trial.calls - 1))) = true ∨
    attempt + trial.calls = policy.attempts
  result : trial.result = results (attempt + (trial.calls - 1))
  asked : trial.asked + (if trial.result.isOk then 1 else 0) = trial.calls
  waits : trial.waits = (List.range' attempt (trial.calls - 1)).map policy.delayFor
  entries : List.Forall₂
    (fun i entry => ∃ fault, results i = .error fault ∧
      entry = policy.entry operation i (policy.delayFor i) (toString fault))
    (List.range' attempt (trial.calls - 1)) trial.entries

variable {policy operation retryable results}

/-- The last attempt. -/
private theorem Tried.last {trial : Trial ε α} (within : attempt < policy.attempts)
    (once : trial.calls = 1) (result : trial.result = results attempt)
    (stops : settles retryable (results attempt) = true ∨ attempt + 1 = policy.attempts)
    (asked : trial.asked + (if trial.result.isOk then 1 else 0) = 1)
    (waits : trial.waits = []) (entries : trial.entries = []) :
    Tried policy operation retryable results attempt trial where
  called := by omega
  within := by omega
  unsettled := by omega
  stops := by
    rw [once]
    exact stops
  result := by rw [once, result, Nat.sub_self, Nat.add_zero]
  asked := asked.trans once.symm
  waits := by simp [once, waits]
  entries := by simp [once, entries]

/-- An attempt that is followed by another. -/
private theorem Tried.cons {trial : Trial ε α} {fault : ε} (failed : results attempt = .error fault)
    (retried : retryable fault = true)
    (later : Tried policy operation retryable results (attempt + 1) trial) :
    Tried policy operation retryable results attempt
      { trial with
        calls := 1 + trial.calls
        asked := 1 + trial.asked
        waits := policy.delayFor attempt :: trial.waits
        entries := policy.entry operation attempt (policy.delayFor attempt) (toString fault) ::
          trial.entries } := by
  have called := later.called
  have last : attempt + (1 + trial.calls - 1) = attempt + 1 + (trial.calls - 1) := by omega
  have indices : List.range' attempt (1 + trial.calls - 1) =
      attempt :: List.range' (attempt + 1) (trial.calls - 1) := by
    rw [← List.range'_succ]
    congr 1
    omega
  refine {
    called := Nat.add_pos_left Nat.one_pos _
    within := ?_
    unsettled := ?_
    stops := ?_
    result := ?_
    asked := ?_
    waits := ?_
    entries := ?_ }
  · rw [← Nat.add_assoc]
    exact later.within
  · intro i (early : i + 1 < 1 + trial.calls)
    cases i with
    | zero => simp [failed, settles, retried]
    | succ i =>
      rw [← Nat.add_assoc, Nat.add_right_comm]
      exact later.unsettled i (by omega)
  · rw [last, ← Nat.add_assoc]
    exact later.stops
  · rw [last]
    exact later.result
  · rw [Nat.add_assoc, later.asked]
  · rw [indices, List.map_cons, later.waits]
  · rw [indices]
    exact .cons ⟨fault, failed, rfl⟩ later.entries

theorem tried_retryFrom (within : attempt < policy.attempts) :
    Tried policy operation retryable results attempt
      (policy.retryFrom operation retryable results attempt) := by
  fun_induction retryFrom policy operation retryable results attempt with
  | case1 attempt value succeeded =>
    apply Tried.last within rfl succeeded.symm
    · exact .inl (by simp [succeeded, settles])
    · rfl
    · rfl
    · rfl
  | case2 attempt fault failed decision =>
    apply Tried.last within rfl failed.symm
    · rcases next?_eq_none_iff.mp decision with rejected | last
      · exact .inl (by simp [failed, settles, rejected])
      · exact .inr (by omega)
    · rfl
    · rfl
    · rfl
  | case3 attempt fault failed delay decision more rest ih =>
    obtain ⟨retried, _, rfl⟩ := next?_eq_some_iff.mp decision
    exact (ih more).cons failed retried

namespace Tried

variable {trial : Trial ε α}

theorem last_eq (tried : Tried policy operation retryable results 0 trial) :
    trial.result = results (trial.calls - 1) := by
  rw [tried.result, Nat.zero_add]

/-- The operation is called until the matter is settled or no attempt is left. -/
theorem calls_eq_min (tried : Tried policy operation retryable results 0 trial) :
    (trial.calls : ℕ∞) = min (settledAt retryable results) (policy.attempts : ℕ∞) := by
  apply le_antisymm
  · apply le_min
    · apply le_settledAt
      intro i early
      rw [← tried.unsettled i early, Nat.zero_add]
    · exact Nat.cast_le.mpr (Nat.zero_add trial.calls ▸ tried.within)
  · rcases tried.stops with settled | all
    · have last : 0 + (trial.calls - 1) + 1 = trial.calls := by
        rw [Nat.zero_add, Nat.sub_add_cancel tried.called]
      exact min_le_of_left_le (last ▸ settledAt_le settled)
    · exact min_le_of_right_le (by rw [← all, Nat.zero_add])

/-- Every call that failed raised the question whether to try again, the last one included. -/
theorem asked_eq (tried : Tried policy operation retryable results 0 trial) :
    trial.asked = (List.range trial.calls).countP fun i => !(results i).isOk := by
  have last : trial.calls - 1 + 1 = trial.calls := Nat.sub_add_cancel tried.called
  have failed : ((List.range (trial.calls - 1)).countP fun i => !(results i).isOk) =
      trial.calls - 1 := by
    rw [List.countP_eq_length.mpr, List.length_range]
    intro i listed
    have unsettled := tried.unsettled i (by have := List.mem_range.mp listed; omega)
    rw [Nat.zero_add] at unsettled
    cases outcome : results i with
    | ok value => simp [outcome, settles] at unsettled
    | error fault => rfl
  have asked := tried.asked
  rw [tried.last_eq] at asked
  rw [← last, List.range_succ, List.countP_append, failed, List.countP_singleton]
  cases ended : (results (trial.calls - 1)).isOk <;> simp [ended] at asked ⊢ <;> omega

theorem waits_le (tried : Tried policy operation retryable results 0 trial) :
    (trial.waits.map Duration.nanoseconds).sum ≤
      (trial.calls - 1) * policy.maxDelay.nanoseconds := by
  have length : (trial.waits.map Duration.nanoseconds).length = trial.calls - 1 := by
    simp [tried.waits]
  rw [← length, ← smul_eq_mul]
  apply List.sum_le_card_nsmul
  intro wait listed
  obtain ⟨delay, waited, rfl⟩ := List.mem_map.mp listed
  rw [tried.waits] at waited
  obtain ⟨i, _, rfl⟩ := List.mem_map.mp waited
  exact policy.delayFor_le i

end Tried

end Retry

/-- An operation is called until one of its results settles the matter, but no more often than the
policy says and once at least, and the last result is what comes of it. Each call that failed raised
the question whether to try again. Between two calls there is a wait, which is the delay of the
attempt before, and an entry that says so. The calls are counted as long as they go on, so a counter
of 64 bits is enough for every limit of 64 bits. -/
theorem tried_until_settled [ToString ε] (policy : RetryPolicy) (operation : String)
    (retryable : ε → Bool) (results : Nat → Except ε α) :
    let trial := policy.retry operation retryable results
    let attempts := max policy.maxAttempts 1
    (trial.calls : ℕ∞) = min (settledAt retryable results) (attempts : ℕ∞) ∧
      trial.result = results (trial.calls - 1) ∧
      trial.asked = ((List.range trial.calls).countP fun i => !(results i).isOk) ∧
      trial.waits = (List.range (trial.calls - 1)).map policy.delayFor ∧
      List.Forall₂
        (fun i entry => entry.level = .debug ∧ ∃ fault, results i = .error fault ∧
          entry = policy.entry operation i (policy.delayFor i) (toString fault))
        (List.range (trial.calls - 1)) trial.entries ∧
      (trial.waits.map Duration.nanoseconds).sum ≤
        (trial.calls - 1) * policy.maxDelay.nanoseconds ∧
      (policy.maxAttempts < 2 ^ 64 → trial.calls < 2 ^ 64) := by
  intro trial attempts
  have tried : Tried policy operation retryable results 0 trial :=
    tried_retryFrom (Nat.le_max_right _ _)
  refine ⟨tried.calls_eq_min, tried.last_eq, tried.asked_eq, ?_, ?_, tried.waits_le, ?_⟩
  · rw [List.range_eq_range']
    exact tried.waits
  · rw [List.range_eq_range']
    refine tried.entries.imp ?_
    rintro i entry ⟨fault, failed, rfl⟩
    exact ⟨rfl, fault, failed, rfl⟩
  · intro limit
    have within : 0 + trial.calls ≤ max policy.maxAttempts 1 := tried.within
    omega

/-- An operation that is always busy, under the largest limit. -/
theorem tried_until_settled_never :
    let policy : RetryPolicy := { standard with maxAttempts := 2 ^ 64 - 1 }
    let trial := policy.retry "write" (fun _ : String => true) fun _ => (.error "busy" : Except _ Nat)
    policy.maxAttempts < 2 ^ 64 ∧ trial.calls = 2 ^ 64 - 1 ∧ trial.calls < 2 ^ 64 ∧
      trial.result = .error "busy" ∧ trial.asked = 2 ^ 64 - 1 ∧
      (trial.waits.map Duration.nanoseconds).sum ≤ (2 ^ 64 - 2) * 10 ^ 9 := by
  intro policy trial
  obtain ⟨calls, result, asked, _, _, waits, fits⟩ :=
    tried_until_settled policy "write" (fun _ : String => true)
      fun _ => (.error "busy" : Except _ Nat)
  have never : settledAt (fun _ : String => true) (fun _ => (.error "busy" : Except _ Nat)) = ⊤ := by
    simp [settledAt, settles]
  have all : trial.calls = 2 ^ 64 - 1 := by
    rw [never, top_inf_eq] at calls
    exact Nat.cast_inj.mp calls
  refine ⟨by decide, all, fits (by decide), result, ?_, ?_⟩
  · have everyCall := List.countP_eq_length.mpr fun i (_ : i ∈ List.range trial.calls) =>
      show (!(.error "busy" : Except String Nat).isOk) = true from rfl
    exact asked.trans (everyCall.trans (List.length_range.trans all))
  · refine waits.trans_eq ?_
    rw [show (policy.retry _ _ _).calls = 2 ^ 64 - 1 from all]
    rfl

end RetryPolicy

end SensorRelay
