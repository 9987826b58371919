import SensorRelay.Toml.Value

/-! # TOML documents with settings

A document gives values to keys, one on a line, with comments between them. A choice can be written
as a value, as a key with a point in it, or as a table with a header of its own.
-/

namespace SensorRelay.Toml

/-- The value of each key; no key comes twice. -/
abbrev Document := List (String × Value)

/-- The name of a key, and perhaps that of a key in the table which it stands for. -/
structure Path where
  key : String
  member : Option String := none
deriving DecidableEq, Repr

/-- A value for a path, or the header of a table, to which all values up to the next one belong. -/
inductive Statement
  | entry (path : Path) (value : Value)
  | header (path : Path)
deriving DecidableEq, Repr

/-- One name, or two with a point between them. -/
def scanPath (ahead : List Char) : Option (Path × List Char) := do
  let (key, rest) ← scanKey ahead
  match rest.dropWhile isBlank with
  | '.' :: rest =>
    let (member, rest) ← scanKey (rest.dropWhile isBlank)
    return (⟨String.ofList key, some (String.ofList member)⟩, rest.dropWhile isBlank)
  | rest => return (⟨String.ofList key, none⟩, rest)

/-- The characters after the end of a line that holds no more than blanks and a comment. -/
def scanLineEnd (ahead : List Char) : Option (List Char) :=
  match ahead.dropWhile isBlank with
  | [] => some []
  | '#' :: comment => afterBreak (comment.dropWhile fun c => !isControl c)
  | rest => afterBreak rest
where
  afterBreak : List Char → Option (List Char)
    | [] => some []
    | '\n' :: rest => some rest
    | '\r' :: '\n' :: rest => some rest
    | _ => none

def scanStatement (ahead : List Char) : Option (Statement × List Char) :=
  match ahead with
  | '[' :: rest => do
    let (path, rest) ← scanPath (rest.dropWhile isBlank)
    let ']' :: rest := rest | none
    return (.header path, rest)
  | _ => do
    let (path, rest) ← scanPath ahead
    let '=' :: rest := rest | none
    let (value, rest) ← scanValue (rest.dropWhile isBlank)
    return (.entry path value, rest)

def scanStatements : Nat → List Char → Option (List Statement)
  | 0, ahead => if ahead.isEmpty then some [] else none
  | lines + 1, ahead =>
    if ahead.isEmpty then some []
    else
      match scanLineEnd ahead with
      | some rest => scanStatements lines rest
      | none => do
        let (statement, rest) ← scanStatement (ahead.dropWhile isBlank)
        return statement :: (← scanStatements lines (← scanLineEnd rest))

structure Table where
  header : Path
  entries : List (Path × Value)
deriving DecidableEq, Repr

/-- The entries before the first header, and the tables after it. -/
def divide : List Statement → List (Path × Value) × List Table
  | [] => ([], [])
  | .entry path value :: rest => ((path, value) :: (divide rest).1, (divide rest).2)
  | .header path :: rest => ([], ⟨path, (divide rest).1⟩ :: (divide rest).2)

def setting? : Path × Value → Option (String × Value)
  | (⟨key, none⟩, value) => some (key, value)
  | (⟨key, some name⟩, .nothing) => some (key, .choice name)
  | _ => none

/-- The choice that a table makes for its key, if any. A table with two names in its header makes
it by being there. -/
def Table.choices? : Table → Option (List (String × Value))
  | ⟨⟨_, none⟩, []⟩ => some []
  | ⟨⟨key, none⟩, [(⟨name, none⟩, .nothing)]⟩ | ⟨⟨key, some name⟩, []⟩ => some [(key, .choice name)]
  | _ => none

/-- The keys whose tables have a header. Such a table has to be opened only once, and to be chosen
from by a header or under one. -/
def opened (tables : List Table) : List String :=
  tables.filterMap fun table => if table.header.member.isNone then some table.header.key else none

def Document.ofStatements? (statements : List Statement) : Option Document := do
  let (entries, tables) := divide statements
  let settings ← entries.mapM setting?
  let choices := (← tables.mapM Table.choices?).flatten
  let opened := opened tables
  let document := settings ++ choices
  if opened.Nodup ∧ (∀ key ∈ opened, key ∈ choices.map Prod.fst) ∧
      (document.map Prod.fst).Nodup then some document
  else none

/-- Reads a document, which may start with a byte order mark. A line takes up a character at
least, so their number bounds that of the lines. -/
def Document.read (text : String) : Option Document := do
  let ahead := match text.toList with
    | '\ufeff' :: rest => rest
    | ahead => ahead
  Document.ofStatements? (← scanStatements (ahead.length + 1) ahead)

end SensorRelay.Toml
