import SensorRelay.Files.System
import SensorRelay.Settings.Basic
import SensorRelay.Text.Utf8

/-! # Loading configuration files

A file that is asked for has to exist. If none is asked for, the one in the user's directory for
configuration is read, if it exists.
-/

namespace SensorRelay.Settings

structure Surroundings where
  home : Option String := none
  /-- The directory for configuration, which counts only when it is absolute. -/
  configHome : Option String := none

def below (directory name : String) : String :=
  if directory.endsWith "/" || directory.isEmpty then directory ++ name
  else s!"{directory}/{name}"

def Surroundings.configDirectory? (s : Surroundings) : Option String :=
  match s.configHome.filter (·.startsWith "/") with
  | some directory => some directory
  | none => s.home.map fun home => below home ".config"

def Surroundings.defaultPath? (s : Surroundings) : Option String :=
  s.configDirectory?.map fun directory => below (below directory "sensorbuf") "sensorbuf.toml"

/-- The part of a message that stands for what is wrong with a document. -/
def parsing : String := "not a table of settings"

def load (fs : Files.System) (path : String) : Except String ConfigFile :=
  let refused (fault : Files.Fault) : Except String ConfigFile :=
    .error s!"Error reading configuration file {path}: {fault.message}"
  match fs.fetch path with
  | .error fault => refused fault
  | .ok .directory => refused .isDirectory
  | .ok (.file content) =>
    match Text.ofUtf8? content with
    | none => refused .notText
    | some text =>
      match ConfigFile.read text with
      | some file => .ok file
      | none => .error s!"Error parsing configuration file {path}: {parsing}"

def loadConfig (fs : Files.System) (surroundings : Surroundings) (asked : Option String) :
    Except RelayFault (Option ConfigFile) :=
  let isThere (path : String) : Bool := (fs.fetch path).toBool
  let result : Except String (Option ConfigFile) :=
    match asked, surroundings.defaultPath? with
    | some path, _ =>
      if isThere path then (load fs path).map some
      else .error s!"The specified configuration file does not exist: {path}"
    | none, some path => if isThere path then (load fs path).map some else .ok none
    | none, none => .ok none
  result.mapError .settings

end SensorRelay.Settings
