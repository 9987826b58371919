import SensorRelay.Json.Text
import SensorRelay.Log.Entry
import SensorRelay.Queue.Basic
import SensorRelay.Reading.Basic

/-! # What can go wrong with a relay

Settings may be wrong and files may be missing: these are faults that users can act on. A fault of
a queue or a thread is none of their making.
-/

namespace SensorRelay

/-- Why a relay did not do its work. -/
inductive RelayFault
  | settings (text : String)
  | file (role path : String) (fault : ReadingFault)
  | queue (fault : QueueFault)
  | spawning (thread text : String)
  | panicked (thread : String)
deriving DecidableEq, Repr

namespace RelayFault

def message : RelayFault → String
  | .settings text => s!"Configuration error: {text}"
  | .file role path fault => s!"Cannot open {role} file '{path}': {fault.message}"
  | .queue fault => s!"Queue error: {fault.message}"
  | .spawning thread text => s!"Failed to spawn thread '{thread}': {text}"
  | .panicked thread => s!"Thread '{thread}' panicked"

/-- The messages of the faults that lie behind a fault, nearest first. -/
def causes : RelayFault → List String
  | .settings _ => []
  | .file _ _ fault => fault.message :: fault.causes
  | .queue fault => fault.message :: fault.causes
  | .spawning _ text => [text]
  | .panicked _ => []

/-- What a user who can do something about a fault is told. -/
def advice? : RelayFault → Option String
  | .settings text => some text
  | .file role path _ => some s!"Cannot open {role} file '{path}'"
  | _ => none

end RelayFault

namespace Log

/-- The entries for a failure of `work`. Advice stands alone; without it the message is put into
context. The details follow on a level and a line of their own. -/
def failure (work message : String) (advice : Option String) : List Entry :=
  let text := advice.getD s!"{work}: {message}"
  let details := Json.quoted message
  [⟨.error, .failure, s!"FATAL: {text}"⟩, ⟨.debug, .failure, s!"DEBUG_DETAILS: {details}"⟩]

end Log

/-- The entries for a fault of a relay. -/
def RelayFault.entries (fault : RelayFault) (work : String) : List Log.Entry :=
  Log.failure work fault.message fault.advice?

end SensorRelay
