import SensorRelay.Numeral
import SensorRelay.Toml.Text

/-! # Keys and values of a TOML document

The values that a setting can have are strings, whole numbers, truth values, and choices, which are
names that stand as the only key of a table and have nothing as their value. Nothing is an empty
table or an empty array. All else is refused.
-/

namespace SensorRelay.Toml

inductive Value
  | text (text : String)
  | whole (n : Int)
  | truth (holds : Bool)
  | choice (name : String)
  | nothing
deriving DecidableEq, Repr

/-- The digits of a number without its underscores, each of which has to stand between digits. -/
def dropUnderscores (isDigit : Char → Bool) : List Char → Option (List Char)
  | [] => none
  | [c] => if isDigit c then some [c] else none
  | c :: '_' :: rest =>
    if isDigit c then (dropUnderscores isDigit rest).map (c :: ·) else none
  | c :: rest => if isDigit c then (dropUnderscores isDigit rest).map (c :: ·) else none

/-- A number in a base, by its digits. -/
def magnitude? (base : Nat) (digits : List Char) : Option Nat := do
  let isDigit (c : Char) := (Json.hexDigit? c).any (· < base)
  let values ← (← dropUnderscores isDigit digits).mapM Json.hexDigit?
  return values.foldl (fun n digit => n * base + digit) 0

/-- A decimal number. Only zero starts with a zero. -/
def decimal? : List Char → Option Nat
  | ['0'] => some 0
  | '0' :: _ => none
  | digits => magnitude? 10 digits

/-- A whole number: decimal with an optional sign, or with a mark for its base. -/
def whole? : List Char → Option Int
  | '0' :: 'x' :: digits => (magnitude? 16 digits).map Int.ofNat
  | '0' :: 'o' :: digits => (magnitude? 8 digits).map Int.ofNat
  | '0' :: 'b' :: digits => (magnitude? 2 digits).map Int.ofNat
  | '+' :: digits => (decimal? digits).map Int.ofNat
  | '-' :: digits => (decimal? digits).map fun n => -(n : Int)
  | digits => (decimal? digits).map Int.ofNat

/-- A value that is no string. -/
def word? (word : List Char) : Option Value :=
  if word = ['t', 'r', 'u', 'e'] then some (.truth true)
  else if word = ['f', 'a', 'l', 's', 'e'] then some (.truth false)
  else (whole? word).map .whole

/-- Does a character go on with a value that is no string? -/
def isWordChar (c : Char) : Bool := !(isBlank c || c == '\n' || c == '\r' || c == '#')

/-- Does a character belong to a key without quotes? -/
def isKeyChar (c : Char) : Bool := c.isAlphanum || c == '-' || c == '_'

def scanKey (ahead : List Char) : Option (List Char × List Char) :=
  match ahead with
  | '"' :: _ | '\'' :: _ => scanShort ahead
  | _ =>
    let key := ahead.takeWhile isKeyChar
    if key.isEmpty then none else some (key, ahead.dropWhile isKeyChar)

/-- Drops what only separates the parts of a table or an array: blanks, line ends and comments. -/
def dropGap (ahead : List Char) : List Char :=
  match ahead with
  | '\n' :: rest => dropGap rest
  | '\r' :: '\n' :: rest => dropGap rest
  | '#' :: comment => dropGap (comment.dropWhile fun c => !isControl c)
  | c :: rest => if isBlank c then dropGap rest else c :: rest
  | [] => []
termination_by ahead.length
decreasing_by
  · simp only [List.length_cons]; omega
  · simp only [List.length_cons]; omega
  · exact Nat.lt_succ_of_le (List.dropWhile_sublist _).length_le
  · simp only [List.length_cons]; omega

/-- The characters after the closing bracket of a table or an array that has nothing in it. -/
def scanClosing (closing : Char) (ahead : List Char) : Option (List Char) :=
  match dropGap ahead with
  | c :: rest => if c = closing then some rest else none
  | [] => none

/-- A choice, after the brace that opens its table. A comma may stand after it. -/
def scanChoice (ahead : List Char) : Option (Value × List Char) := do
  let (name, rest) ← scanKey (dropGap ahead)
  let '=' :: rest := dropGap rest | none
  let rest ← match dropGap rest with
    | '\x7b' :: rest => scanClosing '\x7d' rest
    | '[' :: rest => scanClosing ']' rest
    | _ => none
  let rest := match dropGap rest with
    | ',' :: rest => rest
    | rest => rest
  return (.choice (String.ofList name), ← scanClosing '\x7d' rest)

/-- What stands between braces: nothing, or a choice. -/
def scanTable (ahead : List Char) : Option (Value × List Char) :=
  match scanClosing '\x7d' ahead with
  | some rest => some (.nothing, rest)
  | none => scanChoice ahead

def scanValue (ahead : List Char) : Option (Value × List Char) :=
  match ahead with
  | '"' :: _ | '\'' :: _ =>
    (scanText ahead).map fun (text, rest) => (.text (String.ofList text), rest)
  | '\x7b' :: rest => scanTable rest
  | '[' :: rest => (scanClosing ']' rest).map fun rest => (.nothing, rest)
  | _ => (word? (ahead.takeWhile isWordChar)).map (·, ahead.dropWhile isWordChar)

end SensorRelay.Toml
