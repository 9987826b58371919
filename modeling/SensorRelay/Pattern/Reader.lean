import SensorRelay.Pattern.Bracket

/-! # Reading patterns

A pattern is read from left to right. What is read of each group that is still open waits on a
stack: the alternatives that are complete, and the pieces of the one that is not. Each piece knows
how deep it goes.
-/

namespace SensorRelay.Pattern

open Unicode (CharSet)

/-- A pattern, and how deep groups, repetitions, rows, choices and brackets lie in each other
there. -/
structure Deep where
  pattern : Pattern
  depth : Nat := 0
deriving DecidableEq, Repr

def mostDeep : Nat := 250

/-- A piece of a row: a pattern, or a change of mode. -/
inductive Piece
  | pattern (of : Deep)
  | change
deriving DecidableEq, Repr

namespace Piece

def pattern? : Piece → Option Pattern
  | .pattern of => some of.pattern
  | .change => none

def depth : Piece → Nat
  | .pattern of => of.depth
  | .change => 0

end Piece

/-- The depth of something with parts: if there is more than one part they lie deeper by one. -/
def depthOver (depths : List Nat) : Nat :=
  depths.foldl max 0 + if 1 < depths.length then 1 else 0

/-- A group that is still open, the latest alternatives and pieces first. -/
structure Group where
  mode : Mode := {}
  isRemembered : Bool := false
  alternatives : List Deep := []
  pieces : List Piece := []
deriving DecidableEq, Repr

namespace Group

def push (group : Group) (pattern : Pattern) (depth : Nat) : Group :=
  { group with pieces := .pattern ⟨pattern, depth⟩ :: group.pieces }

def alternative (group : Group) : Deep :=
  ⟨sequence (group.pieces.reverse.filterMap Piece.pattern?), depthOver (group.pieces.map (·.depth))⟩

def divide (group : Group) : Group :=
  { group with alternatives := group.alternative :: group.alternatives, pieces := [] }

def whole (group : Group) : Deep :=
  match group.alternatives with
  | [] => group.alternative
  | _ =>
    let alternatives := (group.alternative :: group.alternatives).reverse
    ⟨choice (alternatives.map (·.pattern)), depthOver (alternatives.map (·.depth))⟩

/-- The group with its last piece repeated. A change of mode cannot be repeated. -/
def repeat? (group : Group) (least : Nat) (most : Option Nat) : Option Group :=
  match group.pieces with
  | .pattern of :: pieces =>
    some ({ group with pieces }.push (of.pattern.times least most) (of.depth + 1))
  | _ => none

end Group

/-- What has been read of a pattern: the group at hand, those around it, and the names in use. -/
structure Draft where
  group : Group := {}
  outer : List Group := []
  names : List (List Char) := []
deriving DecidableEq, Repr

namespace Mode

/-- A decimal number of 32 bits with blanks around it. After a digit a mode may skip some. -/
def readNumber (mode : Mode) (ahead : List Char) : Option (Nat × List Char) := do
  let (digits, rest) := digitsOf ahead.length (ahead.dropWhile Text.isBlank)
  let number ← (Numeral.readNat (2 ^ 32 - 1) digits).toOption
  return (number, dropBlanks rest.length rest)
where
  digitsOf : Nat → List Char → List Char × List Char
    | left + 1, c :: rest =>
      if Numeral.isDigit c then
        let (digits, rest) := digitsOf left (mode.skip rest)
        (c :: digits, rest)
      else ([], c :: rest)
    | _, ahead => ([], ahead)
  dropBlanks : Nat → List Char → List Char
    | left + 1, c :: rest =>
      if Text.isBlank c then dropBlanks left (mode.skip rest) else c :: rest
    | _, ahead => ahead

/-- A number of repetitions, after its opening brace: just so many, at least so many, or from so
many to so many. -/
def readCount (mode : Mode) (ahead : List Char) : Option (Nat × Option Nat × List Char) := do
  let (least, rest) ← mode.readNumber (mode.skip ahead)
  match rest with
  | '\x7d' :: rest => return (least, some least, rest)
  | ',' :: rest =>
    match mode.skip rest with
    | '\x7d' :: rest => return (least, none, rest)
    | rest =>
      let (most, rest) ← mode.readNumber rest
      let '\x7d' :: rest := rest | none
      if least ≤ most then return (least, some most, rest) else none
  | _ => none

end Mode

/-- A question mark after a repetition changes nothing about whether there is a match. -/
def dropLazy : List Char → List Char
  | '?' :: rest => rest
  | ahead => ahead

def nameLetters : CharSet.Finder := ((Unicode.property? "alphabetic").getD {}).finder

def nameNumbers : CharSet.Finder := ((Unicode.category? "n").getD {}).finder

def isName (name : List Char) : Bool :=
  let isFirst (c : Char) := c == '_' || nameLetters.finds c.toNat
  let isOther (c : Char) := isFirst c || ['.', '[', ']'].contains c || nameNumbers.finds c.toNat
  name.head?.any isFirst && name.all isOther

namespace Draft

def enter (draft : Draft) (mode : Mode) (isRemembered : Bool) : Draft :=
  { draft with group := { mode, isRemembered }, outer := draft.group :: draft.outer }

def leave? (draft : Draft) : Option Draft :=
  match draft.outer with
  | [] => none
  | next :: outer =>
    let ⟨pattern, depth⟩ := draft.group.whole
    let pattern := if draft.group.isRemembered then .group pattern else pattern
    some { draft with group := next.push pattern (depth + 1), outer }

def push (draft : Draft) (pattern : Pattern) (depth : Nat) : Draft :=
  { draft with group := draft.group.push pattern depth }

/-- Adds what an escape stands for. In ASCII no byte stands for a character beyond it. -/
def pushEscape? (draft : Draft) : Escape → Option Draft
  | .char c isByte =>
    let mode := draft.group.mode
    if mode.ascii && isByte && 0x7f < c.toNat then none
    else some (draft.push (.one (mode.fold (.single c))) 0)
  | .set set => some (draft.push (.one set) 0)
  | .look place => some (draft.push (.look place) 0)

def dot? (mode : Mode) : Option CharSet :=
  if mode.ascii then none
  else if mode.dotAll then some .all
  else if mode.returns then some (CharSet.ofTexts ["a d"]).complement
  else some (CharSet.ofTexts ["a"]).complement

/-- Opens a group with a name, which no other group has. -/
def readGroupName (draft : Draft) (ahead : List Char) : Option (Draft × List Char) := do
  let (name, rest) ← Mode.cut? ['>'] ahead
  if isName name && !draft.names.contains name then
    return ({ draft.enter draft.group.mode true with names := name :: draft.names }, rest)
  else none

/-- Opens a group after its bracket, or changes the mode of the one at hand. -/
def readGroup (draft : Draft) (ahead : List Char) : Option (Draft × List Char) :=
  let mode := draft.group.mode
  match mode.skip ahead with
  | '?' :: '=' :: _ | '?' :: '!' :: _ | '?' :: '<' :: '=' :: _ | '?' :: '<' :: '!' :: _ => none
  | '?' :: 'P' :: '<' :: rest | '?' :: '<' :: rest => draft.readGroupName rest
  | '?' :: ahead => do
    let text := ahead.takeWhile fun c => c != ':' && c != ')'
    let changes ← Mode.changes? text
    let changed := changes.foldl Mode.change mode
    match ahead.drop text.length with
    | ':' :: rest => return (draft.enter changed false, rest)
    | ')' :: rest =>
      if changes.isEmpty then none
      else
        let group := { draft.group with mode := changed, pieces := .change :: draft.group.pieces }
        return ({ draft with group }, rest)
    | _ => none
  | ahead => some (draft.enter mode true, ahead)

def read? (draft : Draft) (ahead : List Char) : Option (Draft × List Char) :=
  let mode := draft.group.mode
  let repeated (least : Nat) (most : Option Nat) (rest : List Char) : Option (Draft × List Char) :=
    (draft.group.repeat? least most).map fun group => ({ draft with group }, dropLazy rest)
  match ahead with
  | [] => none
  | '(' :: rest => draft.readGroup rest
  | ')' :: rest => draft.leave?.map fun draft => (draft, rest)
  | '|' :: rest => some ({ draft with group := draft.group.divide }, rest)
  | '[' :: rest => do
    let (nested, rest) ← mode.readBracket rest
    return (draft.push (.one nested.set) nested.depth, rest)
  | '?' :: rest => repeated 0 (some 1) rest
  | '*' :: rest => repeated 0 none rest
  | '+' :: rest => repeated 1 none rest
  | '\x7b' :: rest => do
    let (least, most, rest) ← mode.readCount rest
    repeated least most (mode.skip rest)
  | '\\' :: rest => do
    let (escape, rest) ← mode.readEscape rest
    return (← draft.pushEscape? escape, rest)
  | '.' :: rest => do return (draft.push (.one (← dot? mode)) 0, rest)
  | '^' :: rest =>
    let look : Look := if mode.everyLine then .lineStart mode.returns else .textStart
    some (draft.push (.look look) 0, rest)
  | '$' :: rest =>
    let look : Look := if mode.everyLine then .lineEnd mode.returns else .textEnd
    some (draft.push (.look look) 0, rest)
  | c :: rest => some (draft.push (.one (mode.fold (.single c))) 0, rest)

/-- Takes in everything, after which no group may be open. Each round takes a character at least. -/
def readAll? (draft : Draft) : Nat → List Char → Option Deep
  | 0, _ => none
  | left + 1, ahead =>
    match draft.group.mode.skip ahead with
    | [] => if draft.outer.isEmpty then some draft.group.whole else none
    | ahead => do
      let (draft, rest) ← draft.read? ahead
      draft.readAll? left rest

end Draft

def read (text : List Char) : Option Pattern := do
  let ⟨pattern, depth⟩ ← ({} : Draft).readAll? (text.length + 1) text
  if depth ≤ mostDeep then some pattern else none

end SensorRelay.Pattern
