import SensorRelay.Files.System

/-! # Open files

A file that is open is read or written from an offset on, which moves with that. A file that is open
for appending is written at its end, wherever the end is by then.
-/

namespace SensorRelay.Files

structure Handle where
  place : Place
  offset : Nat := 0
  appends : Bool := false
deriving DecidableEq, Repr

namespace Handle

/-- Reads so many bytes at most. There are none at the end of a file, and a directory has none. -/
def read (handle : Handle) (fs : System) (wanted : Nat) : Except Fault (List UInt8 × Handle) :=
  match fs.find? handle.place with
  | some (.file content) =>
    let bytes := (content.drop handle.offset).take wanted
    .ok (bytes, { handle with offset := handle.offset + bytes.length })
  | some .directory => .error .isDirectory
  | none => .ok ([], handle)

def write (handle : Handle) (fs : System) (bytes : List UInt8) : Handle × System :=
  if bytes.isEmpty then (handle, fs)
  else
    let offset := match handle.appends, fs.find? handle.place with
      | true, some (.file content) => content.length
      | _, _ => handle.offset
    ({ handle with offset := offset + bytes.length }, fs.overwrite handle.place offset bytes)

end Handle

namespace System

def openInput (fs : System) (path : String) : Except Fault Handle :=
  (fs.locate path).map fun (place, _) => { place }

/-- Opens a file to be written, which is made if need be. It is emptied, unless bytes are to be
appended to it. -/
def openOutput (fs : System) (path : String) (appends : Bool) : Except Fault (Handle × System) :=
  (fs.claim path).map fun (place, content) =>
    ({ place, appends }, fs.put place (.file (if appends then content else [])))

end System

end SensorRelay.Files
