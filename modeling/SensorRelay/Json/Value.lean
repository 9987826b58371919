import SensorRelay.Json.Number

/-! # Reading JSON values

A text with one value in it is read as that value, of whatever kind it is. The members of an object
keep the order of the text, and a name may occur more than once. Arrays and objects are nested to a
limited depth.
-/

namespace SensorRelay.Json

inductive Value
  | null
  | truth (holds : Bool)
  | number (n : Number)
  | text (text : String)
  | array (elements : List Value)
  | object (members : List (String × Value))
deriving Repr

/-- Reads items up to a closing bracket, with a comma before every one but the first. Each takes up
at least one character, so the characters ahead bound their number. -/
def readItems {α : Type} (item : List Char → Except Fault (α × List Char)) (closing : Char) :
    Nat → Bool → List Char → Except Fault (List α × List Char)
  | 0, _, _ => .error .unfinished
  | rounds + 1, first, ahead =>
    match skipBlanks ahead with
    | [] => .error .unfinished
    | c :: rest =>
      if c = closing then .ok ([], rest)
      else do
        let start ← if first then .ok (c :: rest) else if c = ',' then .ok rest
          else .error .malformed
        let (found, rest) ← item start
        let (others, rest) ← readItems item closing rounds false rest
        return (found :: others, rest)

/-- Reads a member of an object: its name, a colon, and its value. -/
def readMember {α : Type} (value : List Char → Except Fault (α × List Char)) (ahead : List Char) :
    Except Fault ((String × α) × List Char) :=
  match skipBlanks ahead with
  | [] => .error .unfinished
  | '"' :: rest => do
    let (name, rest) ← scanString true rest
    match skipBlanks rest with
    | [] => .error .unfinished
    | ':' :: rest =>
      let (found, rest) ← value rest
      return ((String.ofList name, found), rest)
    | _ => .error .malformed
  | _ => .error .malformed

/-- Reads a value in which arrays and objects are nested up to a depth. -/
def readValue : Nat → List Char → Except Fault (Value × List Char)
  | depth, ahead =>
    match depth, skipBlanks ahead with
    | _, [] => .error .unfinished
    | _, 'n' :: rest => (scanWord ['u', 'l', 'l'] rest).map fun (_, rest) => (.null, rest)
    | _, 't' :: rest => (scanWord ['r', 'u', 'e'] rest).map fun (_, rest) => (.truth true, rest)
    | _, 'f' :: rest =>
      (scanWord ['a', 'l', 's', 'e'] rest).map fun (_, rest) => (.truth false, rest)
    | _, '"' :: rest =>
      (scanString true rest).map fun (text, rest) => (.text (String.ofList text), rest)
    | depth + 1, '[' :: rest =>
      (readItems (readValue depth) ']' (rest.length + 1) true rest).map fun (elements, rest) =>
        (.array elements, rest)
    | depth + 1, '\x7b' :: rest =>
      (readItems (readMember (readValue depth)) '\x7d' (rest.length + 1) true rest).map
        fun (members, rest) => (.object members, rest)
    | _, c :: rest =>
      if c = '-' ∨ Numeral.isDigit c then
        (scanNumber (c :: rest)).map fun (n, rest) => (.number n, rest)
      else .error .malformed

/-- How deep arrays and objects may be nested. -/
def deepest : Nat := 127

/-- Reads a text that holds one value and nothing else. -/
def read (text : String) : Except Fault Value := do
  let (value, rest) ← readValue deepest text.toList
  if (skipBlanks rest).isEmpty then return value else .error .malformed

end SensorRelay.Json
