/-! # Monitors

A monitor guards a value that threads share. A panic while the lock is held poisons it for good:
from then on taking the lock fails, and so does waking up with it.
-/

namespace SensorRelay

/-- A value behind a lock. -/
structure Monitor (α : Type) where
  value : α
  poisoned : Bool := false
deriving DecidableEq, Repr

namespace Monitor

/-- Where a poisoned lock was met. -/
inductive Fault
  | lock
  | wait
deriving DecidableEq, Repr

def Fault.message : Fault → String
  | .lock =>
    "Internal synchronisation error (mutex poisoned). This indicates a panic occurred while " ++
      "holding a lock. PoisonError: PoisonError \x7b .. \x7d"
  | .wait =>
    "Internal synchronisation error (condition wait poisoned). " ++
      "PoisonError: PoisonError \x7b .. \x7d"

variable {α : Type}

/-- Takes the lock, which fails at `place` when it is poisoned. -/
def lockAt (m : Monitor α) (place : Fault) : Except Fault α :=
  if m.poisoned then .error place else .ok m.value

def lock (m : Monitor α) : Except Fault α := m.lockAt .lock

def poison (m : Monitor α) : Monitor α := { m with poisoned := true }

/-- Waits while a condition holds. The monitor is given as it is at first and at each wake-up; the
result is missing when the condition held every time. -/
def waitWhile (blocked : α → Bool) (m : Monitor α) : List (Monitor α) → Option (Except Fault α)
  | [] => if blocked m.value then none else some (.ok m.value)
  | later :: others =>
    if !blocked m.value then some (.ok m.value)
    else if later.poisoned then some (.error .wait)
    else waitWhile blocked later others

end Monitor

end SensorRelay
