import SensorRelay.Relay.Producer
import SensorRelay.Toml.Document

/-! # Configuration files

A configuration file is a TOML document. Everything may be left out, but no key is allowed that
is not a setting.
-/

namespace SensorRelay.Settings

/-- The settings given in a configuration file. Delays are in milliseconds. -/
structure ConfigFile where
  input : Option String := none
  output : Option String := none
  append : Option Bool := none
  consumers : Option Nat := none
  termination : Option Termination := none
  produceDelay : Option Nat := none
  consumeDelay : Option Nat := none
  retryAttempts : Option Nat := none
  retryDelay : Option Nat := none
  logLevel : Option String := none
  logFormat : Option String := none
  logFile : Option String := none
  color : Option Bool := none
deriving DecidableEq, Repr, Inhabited

namespace ConfigFile

def text? : Toml.Value → Option String
  | .text text => some text
  | _ => none

/-- A way of termination, as a string or a choice. -/
def termination? : Toml.Value → Option Termination
  | .text name | .choice name => Termination.ofName? name
  | _ => none

/-- A number of 64 bits without a sign. -/
def number? : Toml.Value → Option Nat
  | .whole n => if 0 ≤ n ∧ n.toNat < 2 ^ 64 then some n.toNat else none
  | _ => none

def truth? : Toml.Value → Option Bool
  | .truth holds => some holds
  | _ => none

/-- Sets what a key stands for, if it is a setting and the value is of its kind. -/
def set? (file : ConfigFile) (key : String) (value : Toml.Value) : Option ConfigFile :=
  match key with
  | "input" => (text? value).map fun path => { file with input := some path }
  | "output" => (text? value).map fun path => { file with output := some path }
  | "append" => (truth? value).map fun holds => { file with append := some holds }
  | "consumers" => (number? value).map fun n => { file with consumers := some n }
  | "termination" => (termination? value).map fun t => { file with termination := some t }
  | "produce-delay-ms" => (number? value).map fun n => { file with produceDelay := some n }
  | "consume-delay-ms" => (number? value).map fun n => { file with consumeDelay := some n }
  | "retry-attempts" => (number? value).map fun n => { file with retryAttempts := some n }
  | "retry-delay-ms" => (number? value).map fun n => { file with retryDelay := some n }
  | "log-level" => (text? value).map fun level => { file with logLevel := some level }
  | "log-format" => (text? value).map fun format => { file with logFormat := some format }
  | "log-file" => (text? value).map fun path => { file with logFile := some path }
  | "color" => (truth? value).map fun holds => { file with color := some holds }
  | _ => none

/-- Reads the text of a configuration file. -/
def read (text : String) : Option ConfigFile := do
  (← Toml.Document.read text).foldlM (fun file (key, value) => file.set? key value) {}

end ConfigFile

end SensorRelay.Settings
