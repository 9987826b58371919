/-! # UTF-8

Text is stored as bytes in UTF-8. Bytes that are no text are read as replacement characters: one for
each run of bytes that starts a character and does not finish it, and one for each other byte.
-/

namespace SensorRelay.Text

/-- The lowest and highest byte that may come next, for each byte that has to follow a first one.
There is none after ASCII, and no answer for a byte that starts nothing. -/
def followers? (first : Nat) : Option (List (Nat × Nat)) :=
  let any := (0x80, 0xbf)
  if first < 0x80 then some []
  else if 0xc2 ≤ first ∧ first ≤ 0xdf then some [any]
  else if first = 0xe0 then some [(0xa0, 0xbf), any]
  else if first = 0xed then some [(0x80, 0x9f), any]
  else if 0xe1 ≤ first ∧ first ≤ 0xef then some [any, any]
  else if first = 0xf0 then some [(0x90, 0xbf), any, any]
  else if 0xf1 ≤ first ∧ first ≤ 0xf3 then some [any, any, any]
  else if first = 0xf4 then some [(0x80, 0x8f), any, any]
  else none

/-- How many of the bytes ahead lie in the ranges, one after the other. -/
def matching : List (Nat × Nat) → List UInt8 → Nat
  | (low, high) :: ranges, byte :: rest =>
    if low ≤ byte.toNat ∧ byte.toNat ≤ high then matching ranges rest + 1 else 0
  | _, _ => 0

/-- The code point that a first byte and those after it stand for. -/
def codePoint (first : Nat) (others : List UInt8) : Nat :=
  let bits := match others.length with
    | 0 => first
    | 1 => first % 32
    | 2 => first % 16
    | _ => first % 8
  others.foldl (fun code byte => code * 64 + byte.toNat % 64) bits

/-- The first character of some bytes, if they start with one, and how many bytes more than one it
takes up. -/
def firstChar (first : UInt8) (rest : List UInt8) : Option Char × Nat :=
  match followers? first.toNat with
  | none => (none, 0)
  | some ranges =>
    let count := matching ranges rest
    if count = ranges.length then
      (some (Char.ofNat (codePoint first.toNat (rest.take count))), count)
    else (none, count)

/-- The characters of a text, with nothing in the places of bytes that are no text. -/
def decode (bytes : List UInt8) : List (Option Char) :=
  match bytes with
  | [] => []
  | first :: rest =>
    let (c, count) := firstChar first rest
    c :: decode (rest.drop count)
termination_by bytes.length

def ofUtf8? (bytes : List UInt8) : Option String := ((decode bytes).mapM id).map String.ofList

/-- The text that bytes stand for, with replacement characters. -/
def ofUtf8 (bytes : List UInt8) : String :=
  String.ofList ((decode bytes).map fun c => c.getD '\ufffd')

def toUtf8 (text : String) : List UInt8 := text.toUTF8.data.toList

end SensorRelay.Text
