import SensorRelay.Json.Text
import SensorRelay.Pattern.Basic
import SensorRelay.Pattern.Mode

/-! # Escapes

A backslash with the characters after it stands for a character, a set or a place. Each reader here
takes the characters ahead and gives what it has read with the characters after it.
-/

namespace SensorRelay.Pattern

open Unicode (CharSet)

inductive Escape
  /-- A character can be written as a byte, with two digits. -/
  | char (c : Char) (isByte : Bool)
  | set (set : CharSet)
  | look (look : Look)
deriving DecidableEq, Repr

def isEscapable (c : Char) : Bool :=
  c.toNat < 0x80 && !c.isAlphanum && c != '<' && c != '>'

/-- The character with a number in hexadecimal digits, if there is such a character. -/
def charOf? (digits : List Char) : Option Char := do
  let values ← digits.mapM Json.hexDigit?
  let code := values.foldl (fun code digit => code * 16 + digit) 0
  if values ≠ [] ∧ code.isValidChar then some (Char.ofNat code) else none

namespace Mode

/-- So many characters, after each of which a mode may skip some. -/
def takeMany (mode : Mode) : Nat → List Char → Option (List Char × List Char)
  | 0, ahead => some ([], ahead)
  | _ + 1, [] => none
  | count + 1, c :: ahead => do
    let (others, rest) ← mode.takeMany count (mode.skip ahead)
    return (c :: others, rest)

/-- The characters before a closing brace, after each of which a mode may skip some. There are no
more of them than characters ahead. -/
def takeBraced (mode : Mode) : Nat → List Char → Option (List Char × List Char)
  | 0, _ | _, [] => none
  | _ + 1, '\x7d' :: rest => some ([], rest)
  | left + 1, c :: ahead => do
    let (others, rest) ← mode.takeBraced left (mode.skip ahead)
    return (c :: others, rest)

def braced (mode : Mode) (ahead : List Char) : Option (List Char × List Char) :=
  mode.takeBraced (ahead.length + 1) (mode.skip ahead)

/-- A character by its number, with so many digits or in braces. -/
def readCode (mode : Mode) (count : Nat) (ahead : List Char) : Option (Escape × List Char) :=
  match mode.skip ahead with
  | '\x7b' :: ahead => do
    let (digits, rest) ← mode.braced ahead
    return (.char (← charOf? digits) false, rest)
  | ahead => do
    let (digits, rest) ← mode.takeMany count ahead
    return (.char (← charOf? digits) (count == 2), rest)

/-- What is before a separator and what is after it, if it occurs. -/
def cut? (separator : List Char) : List Char → Option (List Char × List Char)
  | [] => none
  | c :: rest =>
    if separator.isPrefixOf (c :: rest) then some ([], (c :: rest).drop separator.length)
    else (cut? separator rest).map fun (before, after) => (c :: before, after)

/-- A property of characters, or a property with a value. -/
def property? (mode : Mode) (negated : Bool) (text : List Char) : Option CharSet :=
  if mode.ascii then none
  else
    match cut? ['!', '='] text with
    | some (property, value) => (Unicode.valued? property value).bind (mode.set? !negated)
    | none =>
      match cut? [':'] text <|> cut? ['='] text with
      | some (property, value) => (Unicode.valued? property value).bind (mode.set? negated)
      | none => (Unicode.named? text).bind (mode.set? negated)

/-- A set by a property, in braces or as one letter. -/
def readProperty (mode : Mode) (negated : Bool) (ahead : List Char) :
    Option (Escape × List Char) := do
  let (text, rest) ← match mode.skip ahead with
    | '\x7b' :: ahead => mode.braced ahead
    | [] | '\\' :: _ => none
    | c :: ahead => some ([c], ahead)
  return (.set (← mode.property? negated text), rest)

def shorthand? (mode : Mode) (negated : Bool) (all ascii : CharSet) : Option Escape :=
  let set := if mode.ascii then ascii else all
  (mode.allowed? (if negated then set.complement else set)).map .set

def word (mode : Mode) (place : WordPlace) : Escape := .look (.word place mode.ascii)

def wordPlace? : List Char → Option WordPlace
  | ['s', 't', 'a', 'r', 't'] => some .start
  | ['e', 'n', 'd'] => some .stop
  | ['s', 't', 'a', 'r', 't', '-', 'h', 'a', 'l', 'f'] => some .startHalf
  | ['e', 'n', 'd', '-', 'h', 'a', 'l', 'f'] => some .stopHalf
  | _ => none

/-- An edge of words, perhaps with a name in braces. What does not start like a name is a number of
repetitions. -/
def readEdge (mode : Mode) : List Char → Option (Escape × List Char)
  | '\x7b' :: ahead => do
    let c ← (mode.skip ahead).head?
    if c.isAlpha || c == '-' then
      let (name, rest) ← mode.braced ahead
      return (mode.word (← wordPlace? name), rest)
    else return (mode.word .edge, '\x7b' :: ahead)
  | ahead => some (mode.word .edge, ahead)

def asciiDigits : CharSet := .ofTexts ["30-39"]

def asciiBlanks : CharSet := .ofTexts ["9-d 20"]

/-- An escape, after its backslash. -/
def readEscape (mode : Mode) : List Char → Option (Escape × List Char)
  | [] => none
  | 'x' :: ahead => mode.readCode 2 ahead
  | 'u' :: ahead => mode.readCode 4 ahead
  | 'U' :: ahead => mode.readCode 8 ahead
  | 'p' :: ahead => mode.readProperty false ahead
  | 'P' :: ahead => mode.readProperty true ahead
  | 'b' :: ahead => mode.readEdge ahead
  | c :: rest => (read? c).map fun escape => (escape, rest)
where
  read? (c : Char) : Option Escape :=
    match c with
    | 'd' => mode.shorthand? false Unicode.digits asciiDigits
    | 'D' => mode.shorthand? true Unicode.digits asciiDigits
    | 's' => mode.shorthand? false (.ofRanges Text.blankRanges) asciiBlanks
    | 'S' => mode.shorthand? true (.ofRanges Text.blankRanges) asciiBlanks
    | 'w' => mode.shorthand? false Unicode.wordChars asciiWordChars
    | 'W' => mode.shorthand? true Unicode.wordChars asciiWordChars
    | 'A' => some (.look .textStart)
    | 'z' => some (.look .textEnd)
    | 'B' => some (mode.word .noEdge)
    | '<' => some (mode.word .start)
    | '>' => some (mode.word .stop)
    | 'a' => some (.char '\x07' false)
    | 'f' => some (.char '\x0c' false)
    | 't' => some (.char '\t' false)
    | 'n' => some (.char '\n' false)
    | 'r' => some (.char '\r' false)
    | 'v' => some (.char '\x0b' false)
    | c => if isEscapable c then some (.char c false) else none

end Mode

end SensorRelay.Pattern
