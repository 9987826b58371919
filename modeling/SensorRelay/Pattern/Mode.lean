import SensorRelay.Numeral
import SensorRelay.Unicode.CaseFolding

/-! # Modes

From some character on, a written pattern can be taken to mean something else: case may not count,
or blanks. Letters switch that on and, after a dash, off.
-/

namespace SensorRelay.Pattern

open Unicode (CharSet)

structure Mode where
  anyCase : Bool := false
  everyLine : Bool := false
  dotAll : Bool := false
  /-- Classes of characters are those of ASCII. -/
  ascii : Bool := false
  /-- A carriage return can end a line. -/
  returns : Bool := false
  /-- Blanks mean nothing, and neither do comments. -/
  spaced : Bool := false
deriving DecidableEq, Repr

/-- Drops blanks and comments. A comment goes on to the end of its line. -/
def dropSpace (isComment : Bool) : List Char → List Char
  | [] => []
  | c :: rest =>
    if isComment then dropSpace (c ≠ '\n') rest
    else if Text.isBlank c then dropSpace false rest
    else if c = '#' then dropSpace true rest
    else c :: rest

namespace Mode

def skip (mode : Mode) (ahead : List Char) : List Char :=
  if mode.spaced then dropSpace false ahead else ahead

/-- The character that counts as the next one after a dash. If blanks mean nothing it is the first
one that is not blank, of a comment the first one after its sign. -/
def next? (mode : Mode) (ahead : List Char) : Option Char :=
  if mode.spaced then
    match ahead.dropWhile Text.isBlank with
    | '#' :: rest => (rest.dropWhile Text.isBlank).head? <|> ahead.head?
    | rest => rest.head? <|> ahead.head?
  else ahead.head?

def fold (mode : Mode) (set : CharSet) : CharSet :=
  if !mode.anyCase then set
  else if mode.ascii then set.ignoreAsciiCase
  else set.ignoreCase

/-- A set, if it is allowed: in ASCII it may have no other characters. -/
def allowed? (mode : Mode) (set : CharSet) : Option CharSet :=
  if mode.ascii && !set.isAscii then none else some set

def set? (mode : Mode) (negated : Bool) (set : CharSet) : Option CharSet :=
  let set := mode.fold set
  mode.allowed? (if negated then set.complement else set)

def change (mode : Mode) : Char × Bool → Mode
  | ('i', on) => { mode with anyCase := on }
  | ('m', on) => { mode with everyLine := on }
  | ('s', on) => { mode with dotAll := on }
  | ('u', on) => { mode with ascii := !on }
  | ('R', on) => { mode with returns := on }
  | ('x', on) => { mode with spaced := on }
  | _ => mode

/-- Letters for modes. The last of them says which of several matches is wanted, and changes nothing
about whether there is one. -/
def letters : List Char := ['i', 'm', 's', 'u', 'R', 'x', 'U']

/-- Letters that switch something on and, after a dash, off. None of them may occur twice. -/
def changes? (text : List Char) : Option (List (Char × Bool)) :=
  let known (text : List Char) := text.all letters.contains && text.Nodup
  match Text.pieces '-' text with
  | [on] => if known on then some (on.map (·, true)) else none
  | [on, off] =>
    if known (on ++ off) && !off.isEmpty then
      some (on.map (·, true) ++ off.map (·, false))
    else none
  | _ => none

end Mode

end SensorRelay.Pattern
