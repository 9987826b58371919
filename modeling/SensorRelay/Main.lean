import SensorRelay.Log.Record
import SensorRelay.Program
import Std.Time.DateTime.Timestamp

/-! # Command line

The program as it is called: it looks at the files that its call mentions, runs, and writes the
files that have changed.
-/

namespace SensorRelay.Main

/-- The path from the root to a place. -/
def absolute (place : Files.Place) : String := "/" ++ "/".intercalate place

/-- What stands at a place, if it can be read. -/
def glimpse (place : Files.Place) : IO (Option Files.Node) := do
  try
    return some (.file (← IO.FS.readBinFile (absolute place)).toList)
  catch
    | .inappropriateType _ 21 _ => return some .directory
    | _ => return none

/-- Learns what stands along a path. -/
def surveyFrom (files : Files.System) (place : Files.Place) :
    List (List Char) → IO Files.System
  | [] => return files
  | piece :: rest => do
    match files.step place piece with
    | .error _ => return files
    | .ok next =>
      if (files.find? next).isSome then surveyFrom files next rest
      else
        match ← glimpse next with
        | none => return files
        | some node => surveyFrom (files.put next node) next rest

/-- Learns what stands along some paths. -/
def survey (files : Files.System) (paths : List String) : IO Files.System :=
  paths.foldlM
    (fun files path =>
      surveyFrom files (files.start path.toList) (Text.pieces '/' path.toList))
    files

/-- Writes what has changed. -/
def save (before after : Files.System) : IO Unit :=
  after.nodes.forM fun (place, node) => do
    if before.find? place != some node then
      match node with
      | .directory => IO.FS.createDirAll (absolute place)
      | .file content => IO.FS.writeBinFile (absolute place) ⟨content.toArray⟩

/-- The directory in which the program works, and those above it. -/
def home : IO Files.System := do
  let here := ((Text.pieces '/' s!"{← IO.currentDir}".toList).map String.ofList).filter (· != "")
  return { (({} : Files.System).makeDirectory here) with here }

end SensorRelay.Main

open SensorRelay in
def main (line : List String) : IO UInt32 := do
  let terminal ← (← IO.getStderr).isTty
  let forced := (← IO.getEnv "CLICOLOR_FORCE").any (· != "0")
  let now ← Std.Time.Timestamp.now
  let call : Program.Call :=
    { line, build := ⟨"unknown", "unknown"⟩, files := ← Main.home
      surroundings := ⟨← IO.getEnv "HOME", ← IO.getEnv "XDG_CONFIG_HOME"⟩
      colors := forced || terminal, terminal
      stamp := .ofMilliseconds now.toMillisecondsSinceUnixEpoch.val.toNat }
  let call := { call with files := ← Main.survey call.files (Program.configPaths call) }
  let call := { call with files := ← Main.survey call.files (Program.workPaths call) }
  let result := Program.run call
  Main.save call.files result.files
  IO.print result.output
  IO.eprint (String.join (result.errors.map Log.Output.text))
  return UInt32.ofNat result.code
