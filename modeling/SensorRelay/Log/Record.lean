import SensorRelay.Calendar
import SensorRelay.Json.Text
import SensorRelay.Log.Entry
import SensorRelay.Numeral

/-! # Lines of a log

A record is one thing that was logged, together with the thread and the place it came from. Each
format writes a record as a line; the format in JSON keeps to one line whatever the record holds.
-/

namespace SensorRelay.Log

structure Record where
  level : Level
  target : String
  line : Option Nat := none
  message : String
  thread : Option String
deriving DecidableEq, Repr

/-- A moment as text, in which date and time are parted by a character. -/
abbrev Stamp := Char → String

/-- A moment, given in milliseconds since 1970, to the millisecond. -/
def Stamp.ofMilliseconds (n : Nat) : Stamp := fun separator =>
  let text := ((Calendar.rfc3339? (n / 1000)).getD "").toList
  String.ofList <|
    text.take 10 ++ separator :: (text.drop 11).take 8 ++ '.' :: Numeral.padded 3 (n % 1000)

namespace Level

def abbreviation : Level → String
  | .error => "ERR"
  | .warn => "WRN"
  | .info => "INF"
  | .debug => "DBG"
  | .trace => "TRC"

/-- The terminal's codes for the colour of a level. -/
def colorCodes : Level → String
  | .error => "1;31"
  | .warn => "33"
  | .info => "32"
  | .debug => "34"
  | .trace => "35"

end Level

/-- Ends all colours. -/
def resetCode : String := "\x1b[0m"

/-- A text in a colour. A text that ends all colours on its way gets its own back. -/
def painted (codes text : String) : String :=
  let start := s!"\x1b[{codes}m"
  start ++ text.replace resetCode (resetCode ++ start) ++ resetCode

def dimmed (text : String) : String := painted "2" text

/-- Parts of a target are separated by two colons, which a path shows as a slash. -/
def slashed : List Char → List Char
  | ':' :: ':' :: rest => '/' :: slashed rest
  | c :: rest => c :: slashed rest
  | [] => []

/-- The target of the program itself, as the first part of that of each of its parts. -/
def root : List Char := "sensorbuf::".toList

/-- The path that a target stands for. The parts of the program are files. -/
def targetPath (target : String) : String :=
  let target := target.toList
  String.ofList <|
    if root.isPrefixOf target then slashed (target.drop root.length) ++ ['.', 'r', 's']
    else slashed target

namespace Record

def origin (r : Record) : String :=
  match r.line with
  | some line => s!"{targetPath r.target}:{Numeral.textOfNat line}"
  | none => targetPath r.target

def threadName (r : Record) : String := r.thread.getD "unnamed"

def json (r : Record) (stamp : Stamp) : String :=
  Json.object
    [("level", Json.quoted r.level.abbreviation),
      ("message", Json.quoted r.message),
      ("target", Json.quoted r.origin),
      ("thread", Json.quoted r.threadName),
      ("timestamp", Json.quoted (stamp 'T' ++ "Z"))]

def plain (r : Record) (colored : Bool) (stamp : Stamp) : String :=
  let faint (text : String) := if colored then dimmed text else text
  let level := r.level.abbreviation
  let level := if colored then painted r.level.colorCodes level else level
  let thread := faint ("[" ++ r.threadName ++ "]")
  let moment := faint (stamp ' ')
  s!"{moment} {level} {r.message} {thread}"

/-- A record as a line of text that ends in its origin. -/
def extended (r : Record) (colored : Bool) (stamp : Stamp) : String :=
  let origin := if colored then dimmed r.origin else r.origin
  s!"{r.plain colored stamp} ({origin})"

/-- A record in a format. Colours never show in JSON. -/
def text (r : Record) (format : Format) (colored : Bool) (stamp : Stamp) : String :=
  match format with
  | .text => r.plain colored stamp
  | .ext => r.extended colored stamp
  | .json => r.json stamp

end Record

/-- The line of a part on which an entry of a level counts as logged. -/
def Part.line (part : Part) (level : Level) : Nat :=
  match part, level with
  | .startup, .info => 39
  | .startup, _ => 40
  | .opening, _ => 43
  | .pipeline, .error => 111
  | .pipeline, .warn => 171
  | .pipeline, .info => 132
  | .pipeline, _ => 107
  | .failure, .error => 47
  | .failure, _ => 50
  | .retry, _ => 81
  | .queue, .trace => 129
  | .queue, _ => 169
  | .producer, .error => 70
  | .producer, .warn => 77
  | .producer, _ => 99
  | .consumer, .error => 108
  | .consumer, .warn => 131
  | .consumer, .info => 100
  | .consumer, _ => 127

/-- An entry as a record of a thread. -/
def Entry.record (entry : Entry) (thread : String) : Record :=
  { level := entry.level, target := entry.part.target, line := some (entry.part.line entry.level)
    message := entry.message, thread := some thread }

end SensorRelay.Log
