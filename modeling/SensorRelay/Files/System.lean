import SensorRelay.Text.Blank

/-! # File systems

A path is a text; what it means are its components. Repeated and trailing separators mean nothing,
and neither does a dot, except as the first component of a path that is not absolute. A file system
is a tree of directories and files. A path is followed from the root, or from the directory in which
the program works: one component after the other, each in a directory that exists.
-/

namespace SensorRelay.Files

inductive Component
  | root
  | current
  | parent
  | name (text : String)
deriving DecidableEq, Repr

/-- The component that a piece between two separators stands for, unless it means nothing. -/
def Component.ofPiece? (piece : List Char) : Option Component :=
  if piece = [] ∨ piece = ['.'] then none
  else if piece = ['.', '.'] then some .parent
  else some (.name (String.ofList piece))

/-- What a path starts with: the root, or a dot that stands before the first separator. -/
def leading : List (List Char) → List Component
  | [] :: _ :: _ => [.root]
  | ['.'] :: _ => [.current]
  | _ => []

def components (path : String) : List Component :=
  let pieces := Text.pieces '/' path.toList
  leading pieces ++ pieces.filterMap Component.ofPiece?

/-- Do two paths have the same components? -/
def samePath (a b : String) : Bool := components a == components b

/-- Why a path leads nowhere, or what is there cannot be used. -/
inductive Fault
  | missing
  | notDirectory
  | isDirectory
  | longName
  | zeroByte
  | notText
deriving DecidableEq, Repr

def Fault.message : Fault → String
  | .missing => "No such file or directory (os error 2)"
  | .notDirectory => "Not a directory (os error 20)"
  | .isDirectory => "Is a directory (os error 21)"
  | .longName => "File name too long (os error 36)"
  | .zeroByte => "file name contained an unexpected NUL byte"
  | .notText => "stream did not contain valid UTF-8"

inductive Node
  | directory
  | file (content : List UInt8)
deriving DecidableEq, Repr

/-- The names that lead from the root to a place. -/
abbrev Place := List String

/-- All nodes but the root, and the directory in which the program works. -/
structure System where
  nodes : List (Place × Node) := []
  here : Place := []

namespace System

/-- What stands at a place. The root is a directory. -/
def find? (fs : System) (place : Place) : Option Node :=
  if place.isEmpty then some .directory else fs.nodes.lookup place

/-- Puts something at a place, whatever was there. -/
def put (fs : System) (place : Place) (node : Node) : System :=
  if fs.nodes.any fun entry => entry.1 == place then
    { fs with nodes := fs.nodes.map fun entry => if entry.1 == place then (place, node) else entry }
  else { fs with nodes := fs.nodes ++ [(place, node)] }

/-- Makes a directory and all directories above it, unless they are there. -/
def makeDirectory (fs : System) (place : Place) : System :=
  (List.range (place.length + 1)).foldl
    (fun fs length =>
      if (fs.find? (place.take length)).isSome then fs else fs.put (place.take length) .directory)
    fs

/-- Puts something at a place, in directories that are made if need be. -/
def plant (fs : System) (place : Place) (node : Node) : System :=
  (fs.makeDirectory place.dropLast).put place node

def nameBytes : Nat := 255

def pathBytes : Nat := 4095

def step (fs : System) (place : Place) (piece : List Char) : Except Fault Place :=
  match fs.find? place with
  | none => .error .missing
  | some (.file _) => .error .notDirectory
  | some .directory =>
    if piece = [] ∨ piece = ['.'] then .ok place
    else if piece = ['.', '.'] then .ok place.dropLast
    else if nameBytes < (String.ofList piece).utf8ByteSize then .error .longName
    else .ok (place ++ [String.ofList piece])

def follow (fs : System) (place : Place) : List (List Char) → Except Fault Place
  | [] => .ok place
  | piece :: rest => (fs.step place piece).bind fun place => fs.follow place rest

def start (fs : System) : List Char → Place
  | '/' :: _ => []
  | _ => fs.here

/-- Where a path starts, and its pieces, if it can be a path at all. -/
def enter (fs : System) (path : String) : Except Fault (Place × List (List Char)) :=
  let chars := path.toList
  if chars.contains '\x00' then .error .zeroByte
  else if pathBytes < path.utf8ByteSize then .error .longName
  else if path.isEmpty then .error .missing
  else .ok (fs.start chars, Text.pieces '/' chars)

/-- What a path leads to, and where that is. -/
def locate (fs : System) (path : String) : Except Fault (Place × Node) := do
  let (place, pieces) ← fs.enter path
  let place ← fs.follow place pieces
  match fs.find? place with
  | some node => return (place, node)
  | none => throw .missing

def fetch (fs : System) (path : String) : Except Fault Node := (fs.locate path).map Prod.snd

/-- What a file to be written at a place holds so far. -/
def claimAt (fs : System) (place : Place) : Except Fault (List UInt8) :=
  match fs.find? place with
  | some .directory => .error .isDirectory
  | some (.file content) => .ok content
  | none => .ok []

/-- The place of a file to be written, and what it holds so far. A path that names no file in a
directory, or ends in a separator, stands for a directory. -/
def claim (fs : System) (path : String) : Except Fault (Place × List UInt8) := do
  let (place, pieces) ← fs.enter path
  let named := (pieces.reverse.dropWhile List.isEmpty).reverse
  let parent ← fs.follow place named.dropLast
  let place ← fs.step parent (named.getLast?.getD [])
  if named.length < pieces.length then throw .isDirectory
  return (place, ← fs.claimAt place)

/-- Follows pieces of a path, and makes the directories that are missing on the way. Those that have
been made stay if the path leads nowhere. -/
def carve (fs : System) (place : Place) : List (List Char) → Except Fault Unit × System
  | [] => (.ok (), fs)
  | piece :: rest =>
    match fs.step place piece with
    | .error fault => (.error fault, fs)
    | .ok next =>
      match fs.find? next with
      | some (.file _) => (.error .notDirectory, fs)
      | some .directory => fs.carve next rest
      | none => (fs.put next .directory).carve next rest

/-- Makes the directories in which a path names something. -/
def prepare (fs : System) (path : String) : Except Fault Unit × System :=
  let directory := Text.dropEndWhile (· != '/') path.toList
  if directory.isEmpty then (.ok (), fs)
  else
    match fs.enter (String.ofList directory) with
    | .error fault => (.error fault, fs)
    | .ok (place, pieces) => fs.carve place pieces

/-- Writes on in a file from a place among its bytes. Bytes before it that are missing are zero. -/
def overwrite (fs : System) (place : Place) (offset : Nat) (bytes : List UInt8) : System :=
  let old := match fs.find? place with
    | some (.file content) => content
    | _ => []
  let before := old.take offset ++ List.replicate (offset - old.length) 0
  fs.put place (.file (before ++ bytes ++ old.drop (offset + bytes.length)))

end System

end SensorRelay.Files
