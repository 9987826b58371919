import SensorRelay.Binary64.Rounding

/-! # Decimal literals

A literal is an optional sign and then `inf`, `infinity` or `nan` in any case, or digits with an
optional point among or beside them, at least one digit in all, and an optional exponent. It stands
for the value nearest to it.
-/

namespace SensorRelay.Binary64

/-- Why a text is no literal. -/
inductive LiteralFault
  | empty
  | invalid
deriving DecidableEq, Repr

def LiteralFault.message : LiteralFault → String
  | .empty => "cannot parse float from empty string"
  | .invalid => "invalid float literal"

/-- The exponent after a mantissa: nothing, or `e`, an optional sign and digits. -/
def readExponent : List Char → Option Int
  | [] => some 0
  | c :: rest =>
    if c = 'e' ∨ c = 'E' then
      let (negative, digits) := match rest with
        | '-' :: digits => (true, digits)
        | '+' :: digits => (false, digits)
        | digits => (false, digits)
      if digits.isEmpty || !digits.all Numeral.isDigit then none
      else
        let size : Int := Numeral.valueFrom 0 digits
        some (if negative then -size else size)
    else none

/-- The pattern of an unsigned decimal. -/
def readDecimal (text : List Char) : Option Nat := do
  let whole := text.takeWhile Numeral.isDigit
  let (fraction, rest) := match text.dropWhile Numeral.isDigit with
    | '.' :: rest => (rest.takeWhile Numeral.isDigit, rest.dropWhile Numeral.isDigit)
    | rest => ([], rest)
  if whole.isEmpty && fraction.isEmpty then none
  else
    let exponent ← readExponent rest
    some (nearestDecimal (Numeral.valueFrom 0 (whole ++ fraction)) (exponent - fraction.length))

/-- The pattern of an unsigned literal. -/
def readUnsigned (text : List Char) : Option Nat :=
  match String.ofList (text.map Char.toLower) with
  | "inf" => some infinityPattern
  | "infinity" => some infinityPattern
  | "nan" => some (infinityPattern + 2 ^ 51)
  | _ => readDecimal text

def readLiteral (text : List Char) : Except LiteralFault Binary64 :=
  let read (negative : Bool) (unsigned : List Char) : Except LiteralFault Binary64 :=
    match readUnsigned unsigned with
    | some pattern => .ok (ofPattern negative pattern)
    | none => .error .invalid
  match text with
  | [] => .error .empty
  | '-' :: unsigned => read true unsigned
  | '+' :: unsigned => read false unsigned
  | unsigned => read false unsigned

end SensorRelay.Binary64
