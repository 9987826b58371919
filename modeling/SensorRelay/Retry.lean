import SensorRelay.Duration
import SensorRelay.Log.Entry

/-! # Trying again

A policy says how often an operation is tried and how long to wait before each further attempt.
The waits grow by a factor and are capped. `retry` plays an operation whose results are given in
advance, and `next?` is the decision that it takes after a failure.
-/

namespace SensorRelay

/-- How often to try, and how long to wait in between. -/
structure RetryPolicy where
  maxAttempts : Nat
  delay : Duration
  factor : Nat
  maxDelay : Duration
deriving DecidableEq

namespace RetryPolicy

def standard : RetryPolicy :=
  ⟨5, .ofMilliseconds 10, 2, .ofMilliseconds 1000⟩

instance : Inhabited RetryPolicy := ⟨standard⟩

/-- Everything is tried at least once. -/
def attempts (policy : RetryPolicy) : Nat := max policy.maxAttempts 1

def largestGrowth : Nat := 2 ^ 32 - 1

/-- A power of a factor, capped. A factor of two or more is past the cap from the power 32 on. -/
def growth (factor attempt : Nat) : Nat :=
  if factor ≤ 1 then 1
  else if 32 ≤ attempt then largestGrowth
  else min (factor ^ attempt) largestGrowth

/-- How long to wait after the attempt with an index, counted from zero. -/
def delayFor (policy : RetryPolicy) (attempt : Nat) : Duration :=
  (policy.delay.scale (growth policy.factor attempt)).shorter policy.maxDelay

/-- How long to wait before trying again after the attempt with an index failed; nothing when it
was the last one, or when trying again makes no sense. -/
def next? (policy : RetryPolicy) (attempt : Nat) (retryable : Bool) : Option Duration :=
  if retryable && attempt + 1 < policy.attempts then some (policy.delayFor attempt) else none

def entry (policy : RetryPolicy) (operation : String) (attempt : Nat) (delay : Duration)
    (fault : String) : Log.Entry :=
  let attempt := Numeral.textOfNat (attempt + 1)
  let attempts := Numeral.textOfNat policy.attempts
  let wait := delay.text
  ⟨.debug, .retry,
    s!"Operation '{operation}' failed on attempt {attempt}/{attempts}, retrying in {wait}: {fault}"⟩

/-- What became of an operation that was tried under a policy. -/
structure Trial (ε α : Type) where
  result : Except ε α
  /-- How often the operation was called. -/
  calls : Nat
  /-- How often it was asked whether trying again makes sense. -/
  asked : Nat
  waits : List Duration
  entries : List Log.Entry

/-- Tries from the attempt with an index on. The operation is given by the results of its calls. -/
def retryFrom {ε α : Type} [ToString ε] (policy : RetryPolicy) (operation : String)
    (retryable : ε → Bool) (results : Nat → Except ε α) (attempt : Nat) : Trial ε α :=
  match results attempt with
  | .ok value => ⟨.ok value, 1, 0, [], []⟩
  | .error fault =>
    match decision : policy.next? attempt (retryable fault) with
    | none => ⟨.error fault, 1, 1, [], []⟩
    | some delay =>
      have : attempt + 1 < policy.attempts := by
        by_cases more : attempt + 1 < policy.attempts
        · exact more
        · simp [next?, more] at decision
      let rest := retryFrom policy operation retryable results (attempt + 1)
      { rest with
        calls := 1 + rest.calls
        asked := 1 + rest.asked
        waits := delay :: rest.waits
        entries := policy.entry operation attempt delay (toString fault) :: rest.entries }
termination_by policy.attempts - attempt

def retry {ε α : Type} [ToString ε] (policy : RetryPolicy) (operation : String)
    (retryable : ε → Bool) (results : Nat → Except ε α) : Trial ε α :=
  policy.retryFrom operation retryable results 0

end RetryPolicy

end SensorRelay
