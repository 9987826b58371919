import SensorRelay.Numeral
import SensorRelay.Settings.Basic

/-! # Command lines

A command line is a list of words. Options are known by a long name, and some also by a letter; a
value follows as the next word or is attached. A value that is its own word is judged only when the
next option or the end of the line is reached, so a word that is no option at all comes first.
-/

namespace SensorRelay.Settings.CommandLine

/-- Why a command line gives no arguments: it is faulty, or it asks for something else. -/
inductive Fault
  /-- A value is missing, empty, or none of those on offer. -/
  | invalidValue
  /-- A value is no number, or out of range. -/
  | invalidNumber
  | unknown
  /-- An option is repeated, or excluded by another. -/
  | conflict
  /-- A value was given to an option that takes none. -/
  | unneededValue
  | help
  /-- The version was asked for, by the letter or, in full, by the long name. -/
  | version (full : Bool)
deriving DecidableEq, Repr

/-- What a letter asks for is not asked for in full. -/
def Fault.brief : Fault → Fault
  | .version _ => .version false
  | fault => fault

inductive Name
  | input
  | output
  | append
  | consumers
  | termination
  | produceDelay
  | consumeDelay
  | retryAttempts
  | retryDelay
  | configFile
  | logLevel
  | logFormat
  | logFile
  | color
  | noColor
  | help
  | version
deriving DecidableEq, Repr

namespace Name

def all : List Name :=
  [.input, .output, .append, .consumers, .termination, .produceDelay, .consumeDelay,
    .retryAttempts, .retryDelay, .configFile, .logLevel, .logFormat, .logFile, .color, .noColor,
    .help, .version]

def long : Name → String
  | .input => "input"
  | .output => "output"
  | .append => "append"
  | .consumers => "consumers"
  | .termination => "termination"
  | .produceDelay => "produce-delay-ms"
  | .consumeDelay => "consume-delay-ms"
  | .retryAttempts => "retry-attempts"
  | .retryDelay => "retry-delay-ms"
  | .configFile => "config-file"
  | .logLevel => "log-level"
  | .logFormat => "log-format"
  | .logFile => "log-file"
  | .color => "color"
  | .noColor => "no-color"
  | .help => "help"
  | .version => "version"

def short? : Name → Option Char
  | .input => some 'i'
  | .output => some 'o'
  | .append => some 'a'
  | .consumers => some 'n'
  | .termination => some 't'
  | .configFile => some 'c'
  | .logLevel => some 'l'
  | .help => some 'h'
  | .version => some 'V'
  | _ => none

def takesValue : Name → Bool
  | .append | .color | .noColor | .help | .version => false
  | _ => true

def ofLong? (text : List Char) : Option Name := all.find? fun name => name.long.toList == text

def ofShort? (letter : Char) : Option Name := all.find? fun name => name.short? == some letter

end Name

/-- A path has at least one character. -/
def readPath (value : List Char) : Except Fault String :=
  if value.isEmpty then .error .invalidValue else .ok (String.ofList value)

def readNumber (value : List Char) : Except Fault Nat :=
  (Numeral.readNat (2 ^ 64 - 1) value).mapError fun _ => .invalidNumber

/-- There is at least one consumer, and their number has 16 bits. -/
def readConsumers (value : List Char) : Except Fault Nat :=
  match Numeral.readInt (2 ^ 63) (2 ^ 63 - 1) value with
  | .ok n => if 1 ≤ n ∧ n ≤ 65535 then .ok n.toNat else .error .invalidNumber
  | .error _ => .error .invalidNumber

def readChoice (offered : List String) (value : List Char) : Except Fault String :=
  if String.ofList value ∈ offered then .ok (String.ofList value) else .error .invalidValue

def levels : List String := ["trace", "debug", "info", "warn", "error", "off"]

def assign (a : Arguments) (name : Name) (value : List Char) : Except Fault Arguments :=
  match name with
  | .input => (readPath value).map fun path => { a with input := some path }
  | .output => (readPath value).map fun path => { a with output := some path }
  | .append => .ok { a with append := true }
  | .consumers => (readConsumers value).map fun n => { a with consumers := some n }
  | .termination =>
    (readChoice ["sentinel", "close"] value).map fun t => { a with termination := some t }
  | .produceDelay => (readNumber value).map fun n => { a with produceDelay := some n }
  | .consumeDelay => (readNumber value).map fun n => { a with consumeDelay := some n }
  | .retryAttempts => (readNumber value).map fun n => { a with retryAttempts := some n }
  | .retryDelay => (readNumber value).map fun n => { a with retryDelay := some n }
  | .configFile => (readPath value).map fun path => { a with configFile := some path }
  | .logLevel => (readChoice levels value).map fun level => { a with logLevel := some level }
  | .logFormat =>
    (readChoice ["text", "ext", "json"] value).map fun f => { a with logFormat := some f }
  | .logFile => (readPath value).map fun path => { a with logFile := some path }
  | .color => .ok { a with color := true }
  | .noColor => .ok { a with noColor := true }
  | .help => .error .help
  | .version => .error (.version true)

/-- What is known of a command line after some of its words. -/
structure Scan where
  arguments : Arguments := {}
  seen : List Name := []
  /-- An option whose value is not judged yet, or not even given. -/
  pending : Option (Name × Option (List Char)) := none

namespace Scan

def store (s : Scan) (name : Name) (value : List Char) : Except Fault Scan :=
  if name ∈ s.seen then .error .conflict
  else (assign s.arguments name value).map fun arguments => ⟨arguments, name :: s.seen, none⟩

def resolve (s : Scan) : Except Fault Scan :=
  match s.pending with
  | none => .ok s
  | some (_, none) => .error .invalidValue
  | some (name, some value) => s.store name value

/-- Takes an option with a value attached to it, or without any. -/
def take (s : Scan) (name : Name) (value : List Char) : Except Fault Scan :=
  s.resolve.bind fun s => s.store name value

/-- Takes an option whose value is to be the next word. -/
def await (s : Scan) (name : Name) : Except Fault Scan :=
  s.resolve.map fun s => { s with pending := some (name, none) }

/-- Takes the letters after one dash. What follows the letter of an option that takes a value is
its value, less an equals sign. -/
def letters : Scan → List Char → Except Fault Scan
  | s, [] => .ok s
  | s, letter :: rest =>
    match Name.ofShort? letter with
    | none => .error .unknown
    | some name =>
      if name.takesValue then
        match rest with
        | [] => s.await name
        | '=' :: value => s.take name value
        | value => s.take name value
      else ((s.take name []).mapError Fault.brief).bind fun s => letters s rest

def long (s : Scan) (text : List Char) : Except Fault Scan :=
  match Name.ofLong? (text.takeWhile (· != '=')), text.dropWhile (· != '=') with
  | none, _ => .error .unknown
  | some name, [] => if name.takesValue then s.await name else s.take name []
  | some name, _ :: value => if name.takesValue then s.take name value else .error .unneededValue

/-- Takes a word that is no option. It has to be the value that an option awaits. -/
def plain (s : Scan) (word : List Char) : Except Fault Scan :=
  match s.pending with
  | some (name, none) => .ok { s with pending := some (name, some word) }
  | _ => .error .unknown

def word (s : Scan) : List Char → Except Fault Scan
  | '-' :: '-' :: text => s.long text
  | ['-'] => s.plain ['-']
  | '-' :: text => s.letters text
  | text => s.plain text

/-- Takes words up to the end. Nothing may follow two dashes alone. -/
def words : Scan → List String → Except Fault Scan
  | s, [] => s.resolve
  | s, "--" :: rest => if rest.isEmpty then s.resolve else .error .unknown
  | s, word :: rest => (s.word word.toList).bind fun s => words s rest

end Scan

/-- The arguments of a command line. It cannot ask for colours and for none. -/
def parse (line : List String) : Except Fault Arguments :=
  match Scan.words {} line with
  | .error fault => .error fault
  | .ok s =>
    if s.arguments.color && s.arguments.noColor then .error .conflict else .ok s.arguments

end SensorRelay.Settings.CommandLine
