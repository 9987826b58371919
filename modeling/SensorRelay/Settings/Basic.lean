import SensorRelay.Files.System
import SensorRelay.Json.Text
import SensorRelay.Log.Entry
import SensorRelay.Relay.Fault
import SensorRelay.Retry
import SensorRelay.Settings.ConfigFile

/-! # Settings

Settings come in three layers: what the arguments of a command line leave out is taken from the
configuration file, and what both leave out has a default. `resolve` merges the layers and then
checks the result.
-/

namespace SensorRelay

/-- All that a relay needs to know. -/
structure Settings where
  input : String
  output : String
  append : Bool
  consumers : Nat
  termination : Termination
  produceDelay : Duration
  consumeDelay : Duration
  retry : RetryPolicy
  logLimit : Log.Limit
  logFormat : Log.Format
  logFile : Option String
  /-- Whether the log is coloured; without a choice the terminal decides. -/
  color : Option Bool
deriving DecidableEq

namespace Settings

/-- The settings given on a command line. Delays are in milliseconds. -/
structure Arguments where
  input : Option String := none
  output : Option String := none
  append : Bool := false
  consumers : Option Nat := none
  termination : Option String := none
  produceDelay : Option Nat := none
  consumeDelay : Option Nat := none
  retryAttempts : Option Nat := none
  retryDelay : Option Nat := none
  configFile : Option String := none
  logLevel : Option String := none
  logFormat : Option String := none
  logFile : Option String := none
  color : Bool := false
  noColor : Bool := false
deriving DecidableEq, Repr, Inhabited

/-- Whether a log is to be coloured, if either way was asked for. -/
def Arguments.colorChoice? (a : Arguments) : Option Bool :=
  if a.color then some true else if a.noColor then some false else none

def defaultInput : String := "sensor_data"

def defaultOutput : String := "sensor_data_out.csv"

def defaultConsumers : Nat := 2

def defaultLevel : String := "info"

/-- The limit of a log by its name, which is not read in any other case. -/
def readLimit (level : String) : Except String Log.Limit :=
  match Log.Limit.ofName? level with
  | some limit => .ok limit
  | none =>
    .error (s!"invalid log level '{level}' " ++
      "(expected one of trace, debug, info, warn, error, off)")

/-- Merges the layers. The names of formats and ways of termination are read first, those of the
file before those of the command line. Then there has to be a consumer, a level that exists, and an
output that is not spelled like the input. -/
def merge (args : Arguments) (file : ConfigFile) : Except String Settings := do
  let fileFormat ← file.logFormat.mapM Log.Format.parse
  let termination ← args.termination.mapM Termination.parse
  let format ← args.logFormat.mapM Log.Format.parse
  let consumers := (args.consumers <|> file.consumers).getD defaultConsumers
  let fileLevel := file.logLevel.map fun level => level.map Char.toLower
  let level := (args.logLevel <|> fileLevel).getD defaultLevel
  let input := (args.input <|> file.input).getD defaultInput
  let output := (args.output <|> file.output).getD defaultOutput
  if consumers = 0 then throw "consumers must be at least 1"
  let logLimit ← readLimit level
  if Files.samePath input output then
    throw s!"input and output must be different files ({input})"
  return {
    input, output, consumers, logLimit
    append := args.append || file.append.getD false
    termination := (termination <|> file.termination).getD .standard
    produceDelay := .ofMilliseconds ((args.produceDelay <|> file.produceDelay).getD 0)
    consumeDelay := .ofMilliseconds ((args.consumeDelay <|> file.consumeDelay).getD 0)
    retry := { RetryPolicy.standard with
      maxAttempts :=
        (args.retryAttempts <|> file.retryAttempts).getD RetryPolicy.standard.maxAttempts
      delay :=
        ((args.retryDelay <|> file.retryDelay).map Duration.ofMilliseconds).getD
          RetryPolicy.standard.delay }
    logFormat := (format <|> fileFormat).getD .standard
    logFile := args.logFile <|> file.logFile
    color := args.colorChoice? <|> file.color }

/-- The settings of a command line and a configuration file, if there is one. -/
def resolve (args : Arguments) (file : Option ConfigFile) : Except RelayFault Settings :=
  (merge args (file.getD {})).mapError .settings

/-- Settings as one line of text, whatever the paths hold. -/
def text (s : Settings) : String :=
  let consumers := Numeral.textOfNat s.consumers
  let input := Json.quoted s.input
  let output := Json.quoted s.output
  let logFile := (s.logFile.map Json.quoted).getD "-"
  s!"input={input} output={output} append={s.append} consumers={consumers} " ++
    s!"termination={s.termination.name} produce-delay={s.produceDelay.text} " ++
    s!"consume-delay={s.consumeDelay.text} log-level={s.logLimit.name} " ++
    s!"log-format={s.logFormat.name} log-file={logFile}"

end Settings

end SensorRelay
