import SensorRelay.Relay.Producer
import SensorRelay.Retry

/-! # Consumers

A consumer moves items from a queue to a sink until the stream ends. Removals that fail are tried
again under a policy; writes that fail are counted. Like a producer it is a machine whose phase
says what it does next.
-/

namespace SensorRelay

/-- What a sink makes of an item: it may refuse it, and it may panic. -/
inductive Verdict
  | taken
  | rejected (text : String)
  | panicked
deriving DecidableEq, Repr

/-- Where items end up. -/
class Sink (σ : Type) (α : Type) where
  write : σ → α → Verdict × σ

/-- What a consumer did. -/
structure ConsumerReport where
  name : String
  delivered : Nat := 0
  sinkFailures : Nat := 0
  removeFailures : Nat := 0
deriving DecidableEq, Repr, Inhabited

/-- What a consumer does next. While it removes, it knows how often that has failed in a row. -/
inductive ConsumerPhase (α : Type)
  | removing (failures : Nat)
  | delivering (item : α)
  | ended (ending : Ending ConsumerReport)
deriving DecidableEq, Repr

/-- A consumer on its way through a stream. -/
structure Consumer (α : Type) where
  policy : RetryPolicy
  report : ConsumerReport
  phase : ConsumerPhase α := .removing 0
deriving DecidableEq

namespace Consumer

variable {α : Type}

def start (name : String) (policy : RetryPolicy) : Consumer α := ⟨policy, { name }, .removing 0⟩

def entry (level : Log.Level) (message : String) : Log.Entry := ⟨level, .consumer, message⟩

/-- Goes on after a removal that failed, or gives up. A fault that could have gone away is reported
as such, with the number of attempts. -/
def afterFault (c : Consumer α) (failures : Nat) (fault : QueueFault) :
    Consumer α × List Log.Entry :=
  let name := c.report.name
  let report := { c.report with removeFailures := c.report.removeFailures + 1 }
  let warning := entry .warn s!"{name}: buffer read failed: {fault.message}"
  match c.policy.next? failures fault.isRetryable with
  | some delay =>
    ({ c with report, phase := .removing (failures + 1) },
      [warning, c.policy.entry "queue remove" failures delay fault.message])
  | none =>
    if fault.isRetryable then
      ({ c with report, phase := .ended (.failed (.exhausted c.policy.attempts fault)) },
        [warning, entry .error s!"{name}: giving up after repeated failures: {fault.message}"])
    else ({ c with report, phase := .ended (.failed fault) }, [warning])

/-- Goes on after a removal. -/
def afterRemove (c : Consumer α) (failures : Nat) : Reply α → Consumer α × List Log.Entry
  | .item item => ({ c with phase := .delivering item }, [])
  | .refused fault => c.afterFault failures fault
  | .panicked => ({ c with phase := .ended .panicked }, [])
  | _ =>
    let name := c.report.name
    let delivered := Numeral.textOfNat c.report.delivered
    ({ c with phase := .ended (.finished c.report) },
      [entry .info s!"{name}: end of stream after {delivered} item(s)"])

/-- Goes on after a write to the sink. -/
def afterWrite [QueueItem α] (c : Consumer α) (item : α) : Verdict → Consumer α × List Log.Entry
  | .taken =>
    let name := c.report.name
    ({ c with
        phase := .removing 0
        report := { c.report with delivered := c.report.delivered + 1 } },
      [entry .debug s!"{name}: logged {QueueItem.text item}"])
  | .rejected text =>
    let name := c.report.name
    ({ c with
        phase := .removing 0
        report := { c.report with sinkFailures := c.report.sinkFailures + 1 } },
      [entry .warn s!"{name}: failed to log {QueueItem.text item}: {text}"])
  | .panicked => ({ c with phase := .ended .panicked }, [])

/-- Writes an item to the sink. A poisoned sink ends the consumer, and a panic of the sink poisons
it. -/
def deliver {σ : Type} [QueueItem α] [Sink σ α] (c : Consumer α) (item : α) (sink : Monitor σ) :
    Consumer α × Monitor σ × List Log.Entry :=
  match sink.lock with
  | .error fault =>
    ({ c with phase := .ended (.failed (.poisoned fault.message)) }, sink, [])
  | .ok state =>
    let (verdict, state) := Sink.write state item
    let (c, entries) := c.afterWrite item verdict
    (c, ⟨state, verdict == .panicked⟩, entries)

def ending? (c : Consumer α) : Option (Ending ConsumerReport) :=
  match c.phase with
  | .ended ending => some ending
  | _ => none

end Consumer

end SensorRelay
