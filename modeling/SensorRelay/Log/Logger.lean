import SensorRelay.Files.Handle
import SensorRelay.Log.Selection
import SensorRelay.Text.Utf8

/-! # Loggers

A logger writes the records that it selects to a file or to the console. It is started once: there
is no second logger beside the first. Its file is opened for the first line, which empties it.
-/

namespace SensorRelay.Log

/-- Why a logger could not be started. -/
inductive LoggerFault
  | selection
  | fileName
  | directory (fault : Files.Fault)
  | alreadyStarted
deriving DecidableEq, Repr

def LoggerFault.message : LoggerFault → String
  | .selection => "Failed to parse log specification"
  | .fileName => "Invalid input for deriving FileSpec"
  | .directory _ =>
    "Log cannot be written, e.g. because the configured output directory is not accessible"
  | .alreadyStarted => "Logger initialization failed"

/-- What a logger has to say about itself. -/
inductive Notice
  | unknownWriter (name : String)
  | unwritable (fault : Files.Fault)
deriving DecidableEq, Repr

def Notice.message : Notice → String
  | .unknownWriter name => s!"the log has no writer {name}"
  | .unwritable fault => s!"the log cannot be written: {fault.message}"

/-- What comes from a logger: a line of its log, or a notice. -/
inductive Output
  | line (text : String)
  | notice (of : Notice)
deriving DecidableEq, Repr

namespace Output

def text : Output → String
  | .line text => text ++ "\n"
  | .notice of => of.message ++ "\n"

def line? : Output → Option String
  | .line text => some text
  | .notice _ => none

end Output

/-- The selection that a text stands for. Without a text it is everything down to information. -/
def readSelection : Option String → Except LoggerFault Selection
  | none => .ok (.ofLimit (.upTo .info))
  | some text =>
    match Selection.parse? text with
    | some selection => .ok selection
    | none => .error .selection

/-- The file of a log, and its handle once it is open. -/
structure LogFile where
  path : String
  opened : Option Files.Handle := none
deriving DecidableEq, Repr

namespace LogFile

/-- Does a path name a file? A directory is none, and neither is what ends like one, nor a name with
a point at its start and nowhere else. -/
def isNamed (fs : Files.System) (path : String) : Bool :=
  let name := ((Text.pieces '/' path.toList).getLast?).getD []
  let isDirectory := match fs.fetch path with
    | .ok .directory => true
    | _ => false
  let isHidden := match name with
    | '.' :: rest => !rest.contains '.'
    | _ => false
  !(isDirectory || isHidden || name.isEmpty || name == ['.', '.'])

/-- Where the file of a log is or is going to be. -/
def place? (file : LogFile) (fs : Files.System) : Option Files.Place :=
  (file.opened.map Files.Handle.place) <|> (fs.claim file.path).toOption.map Prod.fst

def write (file : LogFile) (fs : Files.System) (bytes : List UInt8) :
    Except Files.Fault (LogFile × Files.System) := do
  let (handle, fs) ← match file.opened with
    | some handle => pure (handle, fs)
    | none => fs.openOutput file.path false
  let (handle, fs) := handle.write fs bytes
  return ({ file with opened := some handle }, fs)

end LogFile

/-- What is logged, how, and where to: the console, or a file. -/
structure Logger where
  selection : Selection
  format : Format
  colored : Bool
  file : Option LogFile := none
deriving DecidableEq, Repr

namespace Logger

/-- The name of the only writer that a logger has. -/
def writerName : String := "_Default"

/-- The writers that a target in braces asks for. -/
def writers? (target : String) : Option (List String) :=
  match target.toList with
  | '\x7b' :: rest => some ((Text.pieces ',' rest.dropLast).map String.ofList)
  | _ => none

/-- Starts a logger, unless there is one. The directories for its file are made if need be. -/
def start (running : Option Logger) (fs : Files.System) (selection : Selection) (format : Format)
    (colored : Bool) (path : Option String) : Except LoggerFault Logger × Files.System :=
  let started (file : Option LogFile) : Except LoggerFault Logger :=
    if running.isSome then .error .alreadyStarted else .ok { selection, format, colored, file }
  match path with
  | none => (started none, fs)
  | some path =>
    if LogFile.isNamed fs path then
      match fs.prepare path with
      | (.ok (), fs) => (started (some { path }), fs)
      | (.error fault, fs) => (.error (.directory fault), fs)
    else (.error .fileName, fs)

/-- What a record leads to. A target in braces is not one that a selection knows by its name. -/
def outputs (logger : Logger) (stamp : Stamp) (record : Record) : List Output :=
  let writers := writers? record.target
  let asked := writers.getD [writerName]
  let target := if writers.isSome then "" else record.target
  let kept := asked.contains writerName &&
    logger.selection.admits record.level target record.message
  (asked.filter (· != writerName)).map (fun name => .notice (.unknownWriter name)) ++
    if kept then [.line (record.text logger.format logger.colored stamp)] else []

def write (logger : Logger) (stamp : Stamp) (records : List Record) : List Output :=
  records.flatMap (logger.outputs stamp)

/-- Writes lines to the file of a logger, if it has one, and gives what is left for the console. -/
def deliver (logger : Logger) (fs : Files.System) (outputs : List Output) :
    List Output × Logger × Files.System :=
  let lines := outputs.filterMap Output.line?
  match logger.file with
  | none => (outputs, logger, fs)
  | some file =>
    if lines.isEmpty then (outputs, logger, fs)
    else
      match file.write fs (Text.toUtf8 (String.join (lines.map (· ++ "\n")))) with
      | .ok (file, fs) =>
        (outputs.filter (·.line?.isNone), { logger with file := some file }, fs)
      | .error fault =>
        let failed (output : Output) : Output :=
          if output.line?.isSome then .notice (.unwritable fault) else output
        (outputs.map failed, logger, fs)

end Logger

/-- A logger at work, with what it has left for the console. -/
structure Channel where
  logger : Logger
  stamp : Stamp
  console : List Output := []

namespace Channel

def log (channel : Channel) (fs : Files.System) (records : List Record) : Channel × Files.System :=
  let (left, logger, fs) :=
    channel.logger.deliver fs (channel.logger.write channel.stamp records)
  ({ channel with logger, console := channel.console ++ left }, fs)

/-- Where the file of the log is or is going to be, if there is one. -/
def place? (channel : Channel) (fs : Files.System) : Option Files.Place :=
  channel.logger.file.bind (·.place? fs)

end Channel

end SensorRelay.Log
