import SensorRelay.Proofs.Binary64.Fixed
import SensorRelay.Proofs.Text
import SensorRelay.Reading.Line

/-! # A line read back

The fields of a line are visible ASCII without commas (`Plain`), so nothing is cut off them and
nothing is cut in two. Read back, a line gives the id and the timestamp of its reading, and what has
become of its value.
-/

namespace SensorRelay.Line

/-- A field holds only visible ASCII characters, and no comma. -/
def Plain (field : List Char) : Prop := ∀ c ∈ field, 0x20 < c.toNat ∧ c.toNat < 0x7f ∧ c ≠ ','

namespace Plain

variable {field : List Char}

theorem append {left right : List Char} (before : Plain left) (after : Plain right) :
    Plain (left ++ right) := fun c listed =>
  (List.mem_append.mp listed).elim (before c) (after c)

theorem cons {c : Char} (visible : 0x20 < c.toNat) (ascii : c.toNat < 0x7f) (other : c ≠ ',')
    (plain : Plain field) : Plain (c :: field) :=
  List.forall_mem_cons.mpr ⟨⟨visible, ascii, other⟩, plain⟩

theorem of_digits (digits : ∀ c ∈ field, Numeral.isDigit c = true) : Plain field := by
  intro c listed
  have digit := digits c listed
  rw [Numeral.isDigit_eq, Char.isDigit, Bool.and_eq_true, decide_eq_true_eq,
    decide_eq_true_eq] at digit
  have low : 48 ≤ c.toNat := digit.1
  have high : c.toNat ≤ 57 := digit.2
  refine ⟨by omega, by omega, ?_⟩
  rintro rfl
  exact absurd low (by decide)

theorem comma_notMem (plain : Plain field) : ',' ∉ field := fun listed => (plain _ listed).2.2 rfl

theorem not_isLineEnd (plain : Plain field) : ∀ c ∈ field, isLineEnd c = false := by
  intro c listed
  have visible := (plain c listed).1
  unfold isLineEnd
  rw [Bool.or_eq_false_iff, beq_eq_false_iff_ne, beq_eq_false_iff_ne]
  constructor <;> (rintro rfl; exact absurd visible (by decide))

theorem trim (plain : Plain field) : Text.trim field = field := by
  -- Visible ASCII lies between the ranges of blanks.
  refine Text.trim_eq_self fun c listed => ?_
  obtain ⟨visible, ascii, _⟩ := plain c listed
  simp only [Text.isBlank, Text.blankRanges, List.any_cons, List.any_nil]
  grind

end Plain

theorem plain_ofNat (n : Nat) : Plain (Numeral.ofNat n) :=
  .of_digits fun _ => Numeral.isDigit_of_mem_ofNat

theorem plain_ofInt (n : Int) : Plain (Numeral.ofInt n) := by
  unfold Numeral.ofInt
  split
  · exact .cons (by decide) (by decide) (by decide) (plain_ofNat _)
  · exact plain_ofNat _

theorem plain_fixed (x : Binary64) : Plain x.fixed := by
  have hundredths (n : Nat) : Plain (Binary64.hundredthsText n) :=
    (plain_ofNat _).append (.cons (by decide) (by decide) (by decide)
      (.of_digits fun _ => Numeral.isDigit_of_mem_padded))
  have size : Plain (if x.isInfinite then ['i', 'n', 'f'] else
      Binary64.hundredthsText x.hundredths) := by
    split
    · simp [Plain]
    · exact hundredths _
  unfold Binary64.fixed
  split
  · simp [Plain]
  · dsimp only
    split
    · exact .cons (by decide) (by decide) (by decide) size
    · exact size

theorem readId_ofNat (id : UInt16) : readId (Numeral.ofNat id.toNat) = .ok id := by
  have fits : id.toNat ≤ maxId := Nat.le_of_lt_succ id.toNat_lt
  rw [readId, (plain_ofNat _).trim, Numeral.readNat_ofNat fits]
  exact congrArg Except.ok UInt16.ofNat_toNat

theorem readTimestamp_ofInt (timestamp : Int64) :
    readTimestamp (Numeral.ofInt timestamp.toInt) = .ok timestamp := by
  have low : -((maxTimestamp + 1 : Nat) : Int) ≤ timestamp.toInt := timestamp.le_toInt
  have high : timestamp.toInt ≤ (maxTimestamp : Int) := timestamp.toInt_le
  rw [readTimestamp, (plain_ofInt _).trim, Numeral.readInt_ofInt low high]
  exact congrArg Except.ok (Int64.ofInt_toInt timestamp)

theorem readValue_fixed (x : Binary64) :
    ∃ y, readValue x.fixed = .ok y ∧ x.Survives x.fixed y := by
  obtain ⟨y, read, survives⟩ := x.survives_fixed
  exact ⟨y, by rw [readValue, (plain_fixed x).trim, read], survives⟩

/-- The commas of a line are those between its fields. -/
theorem pieces_chars (r : Reading) :
    Text.pieces ',' (chars r) =
      [Numeral.ofNat r.id.toNat, r.value.fixed, Numeral.ofInt r.timestamp.toInt] := by
  rw [chars, List.append_assoc, List.cons_append, Text.pieces_append (plain_ofNat _).comma_notMem,
    Text.pieces_append (plain_fixed _).comma_notMem,
    Text.pieces_of_notMem (plain_ofInt _).comma_notMem]

/-- A line holds only ASCII characters, and no line end. -/
theorem chars_ascii (r : Reading) :
    ∀ c ∈ chars r, c.toNat < 128 ∧ isLineEnd c = false := by
  have plain {field : List Char} (plain : Plain field) :
      ∀ c ∈ field, c.toNat < 128 ∧ isLineEnd c = false := fun c listed =>
    ⟨by have := (plain c listed).2.1; omega, plain.not_isLineEnd c listed⟩
  intro c listed
  simp only [chars, List.mem_append, List.mem_cons] at listed
  obtain (listed | rfl | listed) | rfl | listed := listed
  · exact plain (plain_ofNat _) c listed
  · decide
  · exact plain (plain_fixed _) c listed
  · decide
  · exact plain (plain_ofInt _) c listed

/-- A line reads as its reading, but for the value, which is read on its own. -/
private theorem parse_format_of_read {r : Reading} {value : Binary64}
    (read : readValue r.value.fixed = .ok value) : parse (format r) = .ok { r with value } := by
  have content : Text.dropEndWhile isLineEnd (format r).toList = chars r := by
    rw [format, String.toList_ofList]
    exact Text.dropEndWhile_eq_self fun c listed => (chars_ascii r c listed).2
  rw [parse, content, pieces_chars, readFields, readId_ofNat, read, readTimestamp_ofInt]
  rfl

/-- A line gives back its reading, but for what has become of the value. -/
theorem parse_format (r : Reading) :
    ∃ value, parse (format r) = .ok { r with value } ∧ r.value.Survives r.value.fixed value := by
  obtain ⟨value, read, survives⟩ := readValue_fixed r.value
  exact ⟨value, parse_format_of_read read, survives⟩

/-- What a line gives back is written as the same line. -/
theorem format_of_parse_format {r again : Reading} (parsed : parse (format r) = .ok again) :
    format again = format r := by
  obtain ⟨value, read, _⟩ := r.value.survives_fixed
  have trimmed : readValue r.value.fixed = .ok value := by
    rw [readValue, (plain_fixed _).trim, read]
  rw [parse_format_of_read trimmed] at parsed
  cases parsed
  rw [format, format, chars, chars, Binary64.fixed_of_readLiteral_fixed read]

/-- A line has three fields and reads as a reading, but for the value: that was written as the
middle field, and what is read is what has become of it. -/
def Restores (line : List Char) (r : Reading) : Prop :=
  ∃ id printed timestamp value, Text.pieces ',' line = [id, printed, timestamp] ∧
    parse (String.ofList line) = .ok { r with value } ∧ r.value.Survives printed value

theorem restores_chars (r : Reading) : Restores (chars r) r := by
  obtain ⟨value, parsed, survives⟩ := parse_format r
  exact ⟨_, _, _, value, pieces_chars r, parsed, survives⟩

end SensorRelay.Line
