/-! # Blanks

A blank is a character with the Unicode property `White_Space`. Fields of a line and settings are
read after the blanks around them have been taken off.
-/

namespace SensorRelay.Text

/-- The characters with the property `White_Space`, as ranges of code points in rising order. -/
def blankRanges : List (Nat × Nat) :=
  [(0x09, 0x0d), (0x20, 0x20), (0x85, 0x85), (0xa0, 0xa0), (0x1680, 0x1680), (0x2000, 0x200a),
    (0x2028, 0x2029), (0x202f, 0x202f), (0x205f, 0x205f), (0x3000, 0x3000)]

def isBlank (c : Char) : Bool :=
  blankRanges.any fun range => range.1 ≤ c.toNat && c.toNat ≤ range.2

/-- Drops the longest run at the end whose characters all satisfy `p`. -/
def dropEndWhile (p : Char → Bool) (text : List Char) : List Char :=
  (text.reverse.dropWhile p).reverse

/-- The text without the blanks at both of its ends. -/
def trim (text : List Char) : List Char :=
  dropEndWhile isBlank (text.dropWhile isBlank)

/-- Pieces between the occurrences of a separator; there is always one more than there are
separators. -/
def pieces (separator : Char) : List Char → List (List Char)
  | [] => [[]]
  | c :: rest =>
    if c = separator then [] :: pieces separator rest
    else match pieces separator rest with
      | [] => [[c]]
      | first :: others => (c :: first) :: others

theorem pieces_ne_nil (separator : Char) (text : List Char) : pieces separator text ≠ [] := by
  induction text with
  | nil => simp [pieces]
  | cons c rest ih =>
    by_cases same : c = separator
    · simp [pieces, same]
    · cases tail : pieces separator rest with
      | nil => exact absurd tail ih
      | cons first others => simp [pieces, same, tail]

end SensorRelay.Text
