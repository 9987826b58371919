import SensorRelay.Json.Text

/-! # Strings of a TOML document

Strings stand in double quotes, where a backslash starts an escape, or in single quotes, where all
characters stand for themselves. Three quotes instead of one let a string go over many lines. A
scanner takes the characters after the opening quotes, and gives the text with the characters after
the closing ones.
-/

namespace SensorRelay.Toml

def isBlank (c : Char) : Bool := c == ' ' || c == '\t'

/-- Control characters other than a tab cannot stand for themselves. -/
def isControl (c : Char) : Bool := (c.toNat < 0x20 && c != '\t') || c.toNat == 0x7f

/-- The character with a number that is written with `count` hexadecimal digits, if there is such a
character. -/
def codePoint? (count : Nat) (ahead : List Char) : Option Char := do
  let digits ← (ahead.take count).mapM Json.hexDigit?
  let code := digits.foldl (fun code digit => code * 16 + digit) 0
  if digits.length = count ∧ code.isValidChar then some (Char.ofNat code) else none

/-- The character that an escape stands for, after its backslash, and the length of the escape. -/
def escape? : List Char → Option (Char × Nat)
  | 'b' :: _ => some ('\x08', 1)
  | 't' :: _ => some ('\t', 1)
  | 'n' :: _ => some ('\n', 1)
  | 'f' :: _ => some ('\x0c', 1)
  | 'r' :: _ => some ('\r', 1)
  | 'e' :: _ => some ('\x1b', 1)
  | '"' :: _ => some ('"', 1)
  | '\\' :: _ => some ('\\', 1)
  | 'x' :: ahead => (codePoint? 2 ahead).map (·, 3)
  | 'u' :: ahead => (codePoint? 4 ahead).map (·, 5)
  | 'U' :: ahead => (codePoint? 8 ahead).map (·, 9)
  | _ => none

/-- How many of the first characters are blanks and line ends. -/
def gapLength : List Char → Nat
  | '\r' :: '\n' :: rest => gapLength rest + 2
  | c :: rest => if isBlank c || c == '\n' then gapLength rest + 1 else 0
  | [] => 0

/-- How many characters a backslash at the end of a line, with all blanks and line ends after it,
joins up; nothing if the line goes on after the backslash. -/
def join? (ahead : List Char) : Option Nat :=
  match ahead.dropWhile isBlank with
  | '\n' :: _ | '\r' :: '\n' :: _ => some (gapLength ahead)
  | _ => none

def scanBasic (ahead : List Char) : Option (List Char × List Char) :=
  match ahead with
  | [] => none
  | '"' :: rest => some ([], rest)
  | '\\' :: rest =>
    match escape? rest with
    | none => none
    | some (c, used) => (scanBasic (rest.drop used)).map fun (text, after) => (c :: text, after)
  | c :: rest =>
    if isControl c then none else (scanBasic rest).map fun (text, after) => (c :: text, after)
termination_by ahead.length
decreasing_by all_goals simp; try omega

/-- A string in three double quotes. One or two quotes may stand right before the closing ones. -/
def scanLongBasic (ahead : List Char) : Option (List Char × List Char) :=
  match ahead with
  | [] => none
  | '"' :: '"' :: '"' :: '"' :: '"' :: rest => some (['"', '"'], rest)
  | '"' :: '"' :: '"' :: '"' :: rest => some (['"'], rest)
  | '"' :: '"' :: '"' :: rest => some ([], rest)
  | '\\' :: rest =>
    match join? rest, escape? rest with
    | some joined, _ => scanLongBasic (rest.drop joined)
    | none, none => none
    | none, some (c, used) =>
      (scanLongBasic (rest.drop used)).map fun (text, after) => (c :: text, after)
  | '\r' :: '\n' :: rest =>
    (scanLongBasic rest).map fun (text, after) => ('\r' :: '\n' :: text, after)
  | c :: rest =>
    if isControl c && c != '\n' then none
    else (scanLongBasic rest).map fun (text, after) => (c :: text, after)
termination_by ahead.length
decreasing_by all_goals simp; try omega

def scanLiteral : List Char → Option (List Char × List Char)
  | [] => none
  | '\'' :: rest => some ([], rest)
  | c :: rest =>
    if isControl c then none else (scanLiteral rest).map fun (text, after) => (c :: text, after)

/-- A string in three single quotes. One or two quotes may stand right before the closing ones. -/
def scanLongLiteral : List Char → Option (List Char × List Char)
  | [] => none
  | '\'' :: '\'' :: '\'' :: '\'' :: '\'' :: rest => some (['\'', '\''], rest)
  | '\'' :: '\'' :: '\'' :: '\'' :: rest => some (['\''], rest)
  | '\'' :: '\'' :: '\'' :: rest => some ([], rest)
  | '\r' :: '\n' :: rest =>
    (scanLongLiteral rest).map fun (text, after) => ('\r' :: '\n' :: text, after)
  | c :: rest =>
    if isControl c && c != '\n' then none
    else (scanLongLiteral rest).map fun (text, after) => (c :: text, after)

/-- The line end right after three opening quotes does not count. -/
def dropLineEnd : List Char → List Char
  | '\n' :: rest => rest
  | '\r' :: '\n' :: rest => rest
  | text => text

/-- A string of one line, from its opening quote on. -/
def scanShort : List Char → Option (List Char × List Char)
  | '"' :: rest => scanBasic rest
  | '\'' :: rest => scanLiteral rest
  | _ => none

/-- A string of any kind, from its opening quotes on. -/
def scanText : List Char → Option (List Char × List Char)
  | '"' :: '"' :: '"' :: rest => scanLongBasic (dropLineEnd rest)
  | '\'' :: '\'' :: '\'' :: rest => scanLongLiteral (dropLineEnd rest)
  | text => scanShort text

end SensorRelay.Toml
