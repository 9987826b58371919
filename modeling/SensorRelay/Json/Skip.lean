import SensorRelay.Json.Number

/-! # Passing over JSON values

A value that nobody asked for is still held to the grammar, but escapes in it need not make sense
and it may be nested to any depth.
-/

namespace SensorRelay.Json


/-- An array or an object that is not closed yet. -/
inductive Bracket
  | array
  | object
deriving DecidableEq, Repr

def Bracket.closing : Bracket → Char
  | .array => ']'
  | .object => '\x7d'

/-- What may come next inside the innermost open bracket. -/
inductive Awaiting
  | value
  | firstOrClosing
  | key
  | commaOrClosing
deriving DecidableEq, Repr

/-- A number that is passed over: only its grammar counts. -/
def skipNumber (ahead : List Char) : Except Fault (List Char) := do
  let unsigned := match ahead with
    | '-' :: rest => rest
    | rest => rest
  let rest ← match unsigned.takeWhile Numeral.isDigit with
    | [] => .error .malformed
    | '0' :: _ :: _ => .error .malformed
    | _ => .ok (unsigned.dropWhile Numeral.isDigit)
  let rest ← match rest with
    | '.' :: fraction =>
      if (fraction.takeWhile Numeral.isDigit).isEmpty then .error .malformed
      else .ok (fraction.dropWhile Numeral.isDigit)
    | rest => .ok rest
  match rest with
  | c :: after =>
    if c = 'e' ∨ c = 'E' then
      match scanExponent after with
      | .ok (_, rest) => .ok rest
      | .error _ => .error .malformed
    else .ok rest
  | [] => .ok rest

/-- A scalar that is passed over. -/
def skipScalar : List Char → Except Fault (List Char)
  | 'n' :: ahead => (scanWord ['u', 'l', 'l'] ahead).map Prod.snd
  | 't' :: ahead => (scanWord ['r', 'u', 'e'] ahead).map Prod.snd
  | 'f' :: ahead => (scanWord ['a', 'l', 's', 'e'] ahead).map Prod.snd
  | '"' :: ahead => (scanString false ahead).map Prod.snd
  | c :: ahead =>
    if c = '-' ∨ Numeral.isDigit c then skipNumber (c :: ahead) else .error .malformed
  | [] => .error .unfinished

/-- The key of a member with its colon, after the opening quote. -/
def skipKey (ahead : List Char) : Except Fault (List Char) := do
  let (_, rest) ← scanString false ahead
  match skipBlanks rest with
  | ':' :: rest => .ok rest
  | [] => .error .unfinished
  | _ => .error .malformed

/-- Passes over the rest of a value, given the brackets open around it, innermost first. Every
round but one before an element of an array uses up a character, so twice the characters ahead
bound the rounds. -/
def skipFrom : Nat → List Bracket → Awaiting → List Char → Except Fault (List Char)
  | 0, _, _, _ => .error .unfinished
  | rounds + 1, brackets, awaiting, ahead =>
    let close (rest : List Char) : Except Fault (List Char) :=
      match brackets.drop 1 with
      | [] => .ok rest
      | outer => skipFrom rounds outer .commaOrClosing rest
    match awaiting, brackets, skipBlanks ahead with
    | _, _, [] => .error .unfinished
    | .value, _, '[' :: rest => skipFrom rounds (.array :: brackets) .firstOrClosing rest
    | .value, _, '\x7b' :: rest => skipFrom rounds (.object :: brackets) .firstOrClosing rest
    | .value, [], rest => skipScalar rest
    | .value, _ :: _, rest => do skipFrom rounds brackets .commaOrClosing (← skipScalar rest)
    | .firstOrClosing, bracket :: _, c :: rest =>
      if c = bracket.closing then close rest
      else if bracket = .array then skipFrom rounds brackets .value (c :: rest)
      else skipFrom rounds brackets .key (c :: rest)
    | .key, _, '"' :: rest => do skipFrom rounds brackets .value (← skipKey rest)
    | .commaOrClosing, bracket :: _, c :: rest =>
      if c = bracket.closing then close rest
      else if c = ',' then skipFrom rounds brackets (if bracket = .array then .value else .key) rest
      else .error .malformed
    | _, _, _ => .error .malformed

/-- Passes over a value of any kind. -/
def skipValue (ahead : List Char) : Except Fault (List Char) :=
  skipFrom (3 * ahead.length + 3) [] .value ahead

end SensorRelay.Json
