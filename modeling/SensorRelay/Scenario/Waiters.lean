import SensorRelay.Relay.World
import SensorRelay.Scenario.Item

/-! # Waiting threads

A number of threads remove from an open queue without items, so that all of them wait. Then somebody
makes calls one after the other, and the threads go on as far as they can. Another thread waits
until a counter has reached a target; somebody counts up by one and notifies, or panics while
holding the lock.
-/

namespace SensorRelay.Scenario

structure Waiters where
  /-- Did all of them wait before the first call? -/
  blocked : Bool
  /-- What the calls were answered; nothing stands for a call that would have had to wait. -/
  replies : List (Option (Reply FusedReading))
  /-- What each of the removers was answered; nothing stands for one that still waits. -/
  results : List (Option (Reply FusedReading))
  queue : SharedQueue FusedReading

namespace Waiters

def world (count : Nat) : World RuledSink FusedReading :=
  { queue := .empty, sink := ⟨{}, false⟩
    threads := List.replicate count { name := "", task := .caller [.remove] [] } }

/-- A remover parks in one step. After it was woken it makes its call and may owe a notification,
which takes two more, and it may have been woken in vain by every call. -/
def steps (count calls : Nat) : Nat := 3 * (count + 1) * (calls + 1)

def calling (w : World RuledSink FusedReading) :
    List (Call FusedReading) → List (Option (Reply FusedReading)) × World RuledSink FusedReading
  | [] => ([], w)
  | call :: rest =>
    let (reply, w) := w.interject "" call
    let (replies, w) := calling w rest
    (reply :: replies, w)

def resultOf (thread : Thread FusedReading) : Option (Reply FusedReading) :=
  match thread.task with
  | .caller _ replies => replies.head?
  | _ => none

def run (count : Nat) (calls : List (Call FusedReading)) : Waiters :=
  let steps := steps count calls.length
  let waiting := (world count).settle steps
  let (replies, called) := calling waiting calls
  let settled := called.settle steps
  { blocked := waiting.parked.length == count, replies
    results := settled.threads.map resultOf, queue := settled.queue }

end Waiters

namespace Counter

def await (value target : Nat) : Option (Except Monitor.Fault Nat) :=
  Monitor.waitWhile (· < target) ⟨value, false⟩
    ((List.range (target - value)).map fun n => ⟨value + n + 1, false⟩)

def awaitPanic (value target : Nat) : Option (Except Monitor.Fault Nat) :=
  Monitor.waitWhile (· < target) ⟨value, false⟩ [⟨value, true⟩]

end Counter

end SensorRelay.Scenario
