/-! # Log entries

An entry has a level and comes from one part of the program. Each part has a target, the path that
stands for it in a log. A log keeps the entries up to a level, in one of three formats.
-/

namespace SensorRelay.Log

/-- How grave an entry is, gravest first. -/
inductive Level
  | error
  | warn
  | info
  | debug
  | trace
deriving DecidableEq, Repr

namespace Level

/-- Levels are compared by rank: the graver, the lower. -/
def rank : Level → Nat
  | .error => 1
  | .warn => 2
  | .info => 3
  | .debug => 4
  | .trace => 5

def name : Level → String
  | .error => "error"
  | .warn => "warn"
  | .info => "info"
  | .debug => "debug"
  | .trace => "trace"

def all : List Level := [.error, .warn, .info, .debug, .trace]

/-- The level with a name. -/
def ofName? (name : String) : Option Level := all.find? fun level => level.name == name

end Level

/-- How much of a log is kept: nothing, or the entries up to a level. -/
inductive Limit
  | off
  | upTo (level : Level)
deriving DecidableEq, Repr

namespace Limit

def name : Limit → String
  | .off => "off"
  | .upTo level => level.name

/-- The limit with a name. -/
def ofName? (name : String) : Option Limit :=
  if name = "off" then some .off else (Level.ofName? name).map .upTo

/-- The limit with a name, in any case of its letters. -/
def parse? (text : String) : Option Limit := ofName? (text.map Char.toLower)

/-- Is an entry of a level kept? -/
def admits : Limit → Level → Bool
  | .off, _ => false
  | .upTo most, level => level.rank ≤ most.rank

end Limit

/-- Lines of text, lines of text that name their origin, or JSON objects. -/
inductive Format
  | text
  | ext
  | json
deriving DecidableEq, Repr, Inhabited

namespace Format

def standard : Format := .text

def name : Format → String
  | .text => "text"
  | .ext => "ext"
  | .json => "json"

def all : List Format := [.text, .ext, .json]

/-- The format with exactly this name. -/
def ofName? (name : String) : Option Format := all.find? fun format => format.name == name

/-- The format with a name, in any case of its letters. -/
def parse (text : String) : Except String Format :=
  let name := text.map Char.toLower
  match ofName? name with
  | some format => .ok format
  | none => .error s!"unknown log format '{name}' (expected text, ext or json)"

end Format

/-- The parts of the program that log. -/
inductive Part
  | startup
  | opening
  | pipeline
  | failure
  | retry
  | queue
  | producer
  | consumer
deriving DecidableEq, Repr

def Part.target : Part → String
  | .startup => "sensorbuf::app::startup"
  | .opening | .pipeline => "sensorbuf::app::runner"
  | .failure => "sensorbuf::core::error_handling"
  | .retry => "sensorbuf::core::retry"
  | .queue => "sensorbuf::queue::shared"
  | .producer => "sensorbuf::queue::producer"
  | .consumer => "sensorbuf::queue::consumer"

/-- One thing to log. -/
structure Entry where
  level : Level
  part : Part
  message : String
deriving DecidableEq, Repr

end SensorRelay.Log
