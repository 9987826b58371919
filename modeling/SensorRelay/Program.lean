import SensorRelay.Log.Logger
import SensorRelay.Relay.Run
import SensorRelay.Settings.CommandLine
import SensorRelay.Settings.Loading

/-! # The program

The program reads its command line and its configuration, starts a logger, and runs a relay. What it
does to the files and what it prints is a function of what it finds.
-/

namespace SensorRelay.Program

def name : String := "sensorbuf"

def version : String := "0.1.0"

/-- When a program was built, and from what. -/
structure Build where
  time : String
  hash : String

def Build.version (build : Build) : String :=
  s!"{Program.version} (built {build.time}, git {build.hash})"

/-- All that the program finds when it is called. -/
structure Call where
  line : List String
  surroundings : Settings.Surroundings
  files : Files.System
  build : Build
  /-- Whether colours show, if they are wanted. -/
  colors : Bool
  /-- Whether colours are wanted, if nobody says so. -/
  terminal : Bool
  stamp : Log.Stamp

/-- What the program leaves: its exit code, what it printed, and the files. -/
structure Result where
  code : Nat
  output : String := ""
  errors : List Log.Output := []
  files : Files.System

def optionHelp (option : Settings.CommandLine.Name) : String :=
  let letter := match option.short? with
    | some letter => s!"-{letter}, "
    | none => "    "
  let value := if option.takesValue then " <VALUE>" else ""
  s!"  {letter}--{option.long}{value}\n"

def help : String :=
  s!"Usage: {name} [OPTIONS]\n\nOptions:\n" ++
    String.join (Settings.CommandLine.Name.all.map optionHelp)

/-- What is printed for a command line that gives no arguments. -/
def refusal (fault : Settings.CommandLine.Fault) : String :=
  let text := match fault with
    | .invalidValue => "invalid value"
    | .invalidNumber => "invalid number"
    | .unknown => "unexpected argument"
    | .conflict => "argument cannot be used with another"
    | .unneededValue => "unexpected value"
    | .help | .version _ => ""
  s!"error: {text}"

/-- Runs the relay with a logger that is started. -/
def relay (call : Call) (settings : Settings) (logger : Log.Logger) (files : Files.System) :
    Result :=
  let startup (level : Log.Level) (text : String) : Log.Record :=
    Log.Entry.record ⟨level, .startup, text⟩ Relay.mainName
  let greeting :=
    [startup .info s!"{name} {call.build.version}", startup .debug s!"Settings: {settings.text}"]
  let channel : Log.Channel := { logger, stamp := call.stamp }
  let (channel, files) := channel.log files greeting
  let outcome := Relay.run settings files (some channel)
  let failures := match outcome.result with
    | .ok _ => []
    | .error fault =>
      (fault.entries "Running sensor pipeline").map fun entry => entry.record Relay.mainName
  let (channel, files) := (outcome.channel.getD channel).log outcome.files failures
  { code := if failures.isEmpty then 0 else 1, errors := channel.console, files }

def launch (call : Call) (settings : Settings) : Result :=
  let colored := call.colors && settings.color.getD call.terminal
  match Log.Logger.start none call.files (.ofLimit settings.logLimit) settings.logFormat colored
      settings.logFile with
  | (.error fault, files) =>
    { code := 1, errors := [.line s!"Failed to initialise logging: {fault.message}"], files }
  | (.ok logger, files) => relay call settings logger files

def settings (call : Call) (args : Settings.Arguments) : Except RelayFault Settings :=
  (Settings.loadConfig call.files call.surroundings args.configFile).bind fun file =>
    Settings.resolve args file

def configure (call : Call) (args : Settings.Arguments) : Result :=
  match settings call args with
  | .error fault => { code := 1, errors := [.line fault.message], files := call.files }
  | .ok settings => launch call settings

/-- The paths at which the program looks for its configuration. -/
def configPaths (call : Call) : List String :=
  match Settings.CommandLine.parse call.line with
  | .ok args => (args.configFile <|> call.surroundings.defaultPath?).toList
  | .error _ => []

/-- The paths that the program works with, once it knows its settings. -/
def workPaths (call : Call) : List String :=
  match (Settings.CommandLine.parse call.line).toOption.map (settings call) with
  | some (.ok settings) => settings.input :: settings.output :: settings.logFile.toList
  | _ => []

def run (call : Call) : Result :=
  match Settings.CommandLine.parse call.line with
  | .ok args => configure call args
  | .error .help => { code := 0, output := help, files := call.files }
  | .error (.version full) =>
    let version := if full then call.build.version else version
    { code := 0, output := s!"{name} {version}\n", files := call.files }
  | .error fault => { code := 2, errors := [.line (refusal fault)], files := call.files }

end SensorRelay.Program
