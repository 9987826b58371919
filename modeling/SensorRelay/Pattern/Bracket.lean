import SensorRelay.Pattern.Escape

/-! # Sets in brackets

In brackets stand characters, ranges, escapes, named sets and further brackets. A row of them can be
put together with the one before it by an operation.
-/

namespace SensorRelay.Pattern

open Unicode (CharSet)

/-- The sets of ASCII that have a name in brackets and colons. -/
def bracketNames : Unicode.Table := [
  (["alnum"], ["30-39 41-5a 61-7a"]),
  (["alpha"], ["41-5a 61-7a"]),
  (["ascii"], ["0-7f"]),
  (["blank"], ["9 20"]),
  (["cntrl"], ["0-1f 7f"]),
  (["digit"], ["30-39"]),
  (["graph"], ["21-7e"]),
  (["lower"], ["61-7a"]),
  (["print"], ["20-7e"]),
  (["punct"], ["21-2f 3a-40 5b-60 7b-7e"]),
  (["space"], ["9-d 20"]),
  (["upper"], ["41-5a"]),
  (["word"], ["30-39 41-5a 5f 61-7a"]),
  (["xdigit"], ["30-39 41-46 61-66"])]

/-- How two rows of members are put together. -/
inductive Operation
  | inter
  | diff
  | symmDiff
deriving DecidableEq, Repr

def Operation.apply : Operation → CharSet → CharSet → CharSet
  | .inter => .inter
  | .diff => .diff
  | .symmDiff => .symmDiff

/-- A set that has been read, and how deep brackets and rows lie in each other there. -/
structure Nested where
  set : CharSet := {}
  depth : Nat := 0
deriving DecidableEq, Repr

/-- A row of members so far, with their number. -/
structure Members extends Nested where
  count : Nat := 0
deriving DecidableEq, Repr

namespace Members

def add (row : Members) (set : CharSet) (depth : Nat) : Members :=
  ⟨⟨row.set.union set, max row.depth depth⟩, row.count + 1⟩

/-- The row as a whole. More than one member lies deeper by one. -/
def nested (row : Members) : Nested :=
  { row.toNested with depth := if 1 < row.count then row.depth + 1 else row.depth }

end Members

/-- What lies before a row: nothing, or a set and an operation. -/
abbrev Before := Option (Nested × Operation)

namespace Mode

def close (mode : Mode) (before : Before) (row : Members) : Nested :=
  match before with
  | none => row.nested
  | some (first, operation) =>
    ⟨operation.apply (mode.fold first.set) (mode.fold row.set),
      max first.depth row.nested.depth + 1⟩

/-- A named set, after its opening bracket. -/
def readNamed? (ahead : List Char) : Option (Bool × CharSet × List Char) := do
  let ':' :: ahead := ahead | none
  let negated := ahead.head? = some '^'
  let (name, rest) ← cut? [':', ']'] (if negated then ahead.drop 1 else ahead)
  let set ← bracketNames.find? (String.ofList name)
  return (negated, set, rest)

def readMember (mode : Mode) : List Char → Option (Escape × List Char)
  | [] => none
  | '\\' :: rest => mode.readEscape rest
  | c :: rest => some (.char c false, rest)

/-- A character, a range or an escape in brackets. A dash before the closing bracket or before
another dash makes no range. -/
def readItem (mode : Mode) (ahead : List Char) : Option (CharSet × List Char) := do
  let (item, rest) ← mode.readMember ahead
  match item, mode.skip rest with
  | .look _, _ => none
  | .set set, '-' :: rest =>
    if isRange rest then none else return (set, '-' :: rest)
  | .set set, rest => return (set, rest)
  | .char first _, '-' :: rest =>
    if isRange rest then
      let (.char last _, rest) ← mode.readMember (mode.skip rest) | none
      if first ≤ last then
        return (← mode.allowed? (.ofRanges [(first.toNat, last.toNat)]), rest)
      else none
    else return (← mode.allowed? (.single first), '-' :: rest)
  | .char c _, rest => return (← mode.allowed? (.single c), rest)
where
  isRange (rest : List Char) : Bool := mode.next? rest ∉ [some ']', some '-']

/-- Rows up to the closing bracket. At the start of the first row dashes stand for themselves, and a
closing bracket does if it is the first of all. Each round takes a character at least. -/
def readRows (mode : Mode) :
    Nat → Bool → Before → Members → List Char → Option (Nested × List Char)
  | 0, _, _, _, _ => none
  | left + 1, isStart, before, row, ahead =>
    match mode.skip ahead, isStart with
    | '-' :: rest, true => mode.readRows left true before (row.add (.single '-') 0) rest
    | ahead, isStart =>
      match ahead with
      | [] => none
      | '[' :: rest =>
        match readNamed? rest with
        | some (negated, set, rest) => do
          mode.readRows left false before (row.add (← mode.set? negated set) 0) rest
        | none => do
          let negated := (mode.skip rest).head? = some '^'
          let inside := if negated then (mode.skip rest).drop 1 else rest
          let (nested, rest) ← mode.readRows left true none {} inside
          mode.readRows left false before
            (row.add (← mode.set? negated nested.set) (nested.depth + 1)) rest
      | ']' :: rest =>
        if isStart && row.count == 0 then
          mode.readRows left false before (row.add (.single ']') 0) rest
        else some (mode.close before row, rest)
      | '&' :: '&' :: rest =>
        mode.readRows left false (some (mode.close before row, .inter)) {} rest
      | '-' :: '-' :: rest =>
        mode.readRows left false (some (mode.close before row, .diff)) {} rest
      | '~' :: '~' :: rest =>
        mode.readRows left false (some (mode.close before row, .symmDiff)) {} rest
      | ahead => do
        let (set, rest) ← mode.readItem ahead
        mode.readRows left false before (row.add set 0) rest

def readBracket (mode : Mode) (ahead : List Char) : Option (Nested × List Char) := do
  let negated := (mode.skip ahead).head? = some '^'
  let inside := if negated then (mode.skip ahead).drop 1 else ahead
  let (nested, rest) ← mode.readRows (ahead.length + 1) true none {} inside
  return (⟨← mode.set? negated nested.set, nested.depth + 1⟩, rest)

end Mode

end SensorRelay.Pattern
