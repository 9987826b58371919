import SensorRelay.Except
import SensorRelay.Numeral

/-! # Texts in JSON

The parts of a JSON text that all readers share: blanks, strings and words. A scanner takes the
characters ahead and gives what it read with the characters left. A string is written between
quotes. Quotes, backslashes and control characters are escaped, with a short escape where there is
one, and all other characters stand for themselves.
-/

namespace SensorRelay.Json

/-- Why a text could not be read: it breaks the grammar, it ends too early, or a value in it is not
of the kind asked for. -/
inductive Fault
  | malformed
  | unfinished
  | mistyped
deriving DecidableEq, Repr

def isBlank (c : Char) : Bool := c == ' ' || c == '\n' || c == '\t' || c == '\r'

def skipBlanks (ahead : List Char) : List Char := ahead.dropWhile isBlank

/-- What a hexadecimal digit stands for. -/
def hexDigit? (c : Char) : Option Nat :=
  if '0' ≤ c && c ≤ '9' then some (c.toNat - 48)
  else if 'a' ≤ c && c ≤ 'f' then some (c.toNat - 87)
  else if 'A' ≤ c && c ≤ 'F' then some (c.toNat - 55)
  else none

/-- Four hexadecimal digits. A text with fewer than four bytes left ends too early. -/
def scanHex (ahead : List Char) : Except Fault (Nat × List Char) :=
  match (ahead.take 4).mapM hexDigit? with
  | some [a, b, c, d] => .ok (((a * 16 + b) * 16 + c) * 16 + d, ahead.drop 4)
  | _ =>
    if ((ahead.take 4).map Char.utf8Size).sum < 4 then .error .unfinished else .error .malformed

def isLeadingSurrogate (unit : Nat) : Bool := 0xd800 ≤ unit && unit ≤ 0xdbff

def isTrailingSurrogate (unit : Nat) : Bool := 0xdc00 ≤ unit && unit ≤ 0xdfff

/-- The character that a leading and a trailing surrogate stand for. -/
def joinSurrogates (leading trailing : Nat) : Char :=
  Char.ofNat (0x10000 + (leading - 0xd800) * 0x400 + (trailing - 0xdc00))

/-- The second half of a character that is escaped as two units. -/
def scanTrailing (leading : Nat) : List Char → Except Fault (Char × List Char)
  | [] => .error .unfinished
  | '\\' :: [] => .error .unfinished
  | '\\' :: 'u' :: ahead => do
    let (unit, rest) ← scanHex ahead
    if isTrailingSurrogate unit then
      .ok (joinSurrogates leading unit, rest)
    else .error .malformed
  | _ => .error .malformed

/-- The character that an escape stands for, after its backslash. A strict scanner refuses a
surrogate without its partner; a lenient one takes it for some character. -/
def scanEscape (strict : Bool) : List Char → Except Fault (Char × List Char)
  | [] => .error .unfinished
  | '"' :: rest => .ok ('"', rest)
  | '\\' :: rest => .ok ('\\', rest)
  | '/' :: rest => .ok ('/', rest)
  | 'b' :: rest => .ok ('\x08', rest)
  | 'f' :: rest => .ok ('\x0c', rest)
  | 'n' :: rest => .ok ('\n', rest)
  | 'r' :: rest => .ok ('\r', rest)
  | 't' :: rest => .ok ('\t', rest)
  | 'u' :: ahead => do
    let (unit, rest) ← scanHex ahead
    if !strict then .ok (Char.ofNat unit, rest)
    else if isTrailingSurrogate unit then .error .malformed
    else if isLeadingSurrogate unit then scanTrailing unit rest
    else .ok (Char.ofNat unit, rest)
  | _ => .error .malformed

theorem length_of_scanHex {ahead rest : List Char} {unit : Nat}
    (scanned : scanHex ahead = .ok (unit, rest)) : rest.length ≤ ahead.length := by
  unfold scanHex at scanned
  split at scanned
  · cases scanned; simp
  · split at scanned <;> cases scanned

theorem length_of_scanTrailing {leading : Nat} {ahead rest : List Char} {c : Char}
    (scanned : scanTrailing leading ahead = .ok (c, rest)) : rest.length ≤ ahead.length := by
  unfold scanTrailing at scanned
  split at scanned
  · cases scanned
  · cases scanned
  · rename_i tail
    obtain ⟨⟨unit, left⟩, read, scanned⟩ := Except.bind_eq_ok_iff.mp scanned
    have shorter := length_of_scanHex read
    dsimp only at scanned
    split at scanned
    · simp only [Except.ok.injEq, Prod.mk.injEq] at scanned
      simp only [List.length_cons, ← scanned.2]; omega
    · cases scanned
  · cases scanned

theorem length_of_scanEscape {strict : Bool} {ahead rest : List Char} {c : Char}
    (scanned : scanEscape strict ahead = .ok (c, rest)) : rest.length ≤ ahead.length := by
  unfold scanEscape at scanned
  split at scanned <;> try contradiction
  all_goals try (cases scanned; simp)
  rename_i tail
  obtain ⟨⟨unit, left⟩, read, scanned⟩ := Except.bind_eq_ok_iff.mp scanned
  have shorter := length_of_scanHex read
  dsimp only at scanned
  split at scanned
  · simp only [Except.ok.injEq, Prod.mk.injEq] at scanned
    simp only [List.length_cons, ← scanned.2]; omega
  · split at scanned
    · cases scanned
    · split at scanned
      · have trailing := length_of_scanTrailing scanned
        simp only [List.length_cons]; omega
      · simp only [Except.ok.injEq, Prod.mk.injEq] at scanned
        simp only [List.length_cons, ← scanned.2]; omega

/-- The characters of a string, after its opening quote. Control characters must be escaped. -/
def scanString (strict : Bool) (ahead : List Char) : Except Fault (List Char × List Char) :=
  match ahead with
  | [] => .error .unfinished
  | '"' :: rest => .ok ([], rest)
  | '\\' :: rest =>
    match scanned : scanEscape strict rest with
    | .error fault => .error fault
    | .ok (c, left) =>
      have := length_of_scanEscape scanned
      (scanString strict left).map fun (text, after) => (c :: text, after)
  | c :: rest =>
    if c.toNat < 0x20 then .error .malformed
    else (scanString strict rest).map fun (text, after) => (c :: text, after)
termination_by ahead.length
decreasing_by all_goals simp_all; try omega

/-- A word such as `null`; a text that ends inside it ends too early. -/
def scanWord : List Char → List Char → Except Fault (Unit × List Char)
  | [], ahead => .ok ((), ahead)
  | _ :: _, [] => .error .unfinished
  | c :: word, d :: ahead => if c = d then scanWord word ahead else .error .malformed

def hexChar (digit : Nat) : Char := Nat.digitChar digit

/-- A character as it stands in a string. -/
def escaped (c : Char) : List Char :=
  if c = '"' then ['\\', '"']
  else if c = '\\' then ['\\', '\\']
  else if c = '\n' then ['\\', 'n']
  else if c = '\r' then ['\\', 'r']
  else if c = '\t' then ['\\', 't']
  else if c = '\x08' then ['\\', 'b']
  else if c = '\x0c' then ['\\', 'f']
  else if c.toNat < 0x20 then
    ['\\', 'u', '0', '0', hexChar (c.toNat / 16), hexChar (c.toNat % 16)]
  else [c]

def quotedChars (text : List Char) : List Char := '"' :: text.flatMap escaped ++ ['"']

def quoted (text : String) : String := String.ofList (quotedChars text.toList)

/-- An object with members that are written already. -/
def object (members : List (String × String)) : String :=
  let written := members.map fun (name, value) => s!"{quoted name}:{value}"
  "\x7b" ++ String.intercalate "," written ++ "\x7d"

def array (values : List String) : String := "[" ++ String.intercalate "," values ++ "]"

end SensorRelay.Json
