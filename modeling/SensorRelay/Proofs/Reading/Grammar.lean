import SensorRelay.Proofs.Binary64.Literal
import SensorRelay.Proofs.Text
import SensorRelay.Reading.Line

/-! # The grammar of lines

What a field may be is stated without its reader: between blanks stands a whole number in a range, or
a literal. The reader of a field is compared with that in both directions. So a line is read exactly
if its fields hold a reading, and otherwise the first field that holds nothing is the one that is
reported (`reads_grammar`).
-/

namespace SensorRelay.Line

/-- The field holds an id: digits after an optional plus sign, for a number of 16 bits. -/
inductive HoldsId (field : List Char) (id : UInt16) : Prop
  | number {text : List Char} {n : Nat} (trimmed : Text.Trimmed field text)
      (number : Numeral.NatText text n) (fits : n ≤ 65535) (same : id.toNat = n)

/-- The field holds a literal, which stands for a value. -/
inductive HoldsValue (field : List Char) (value : Binary64) : Prop
  | literal {text : List Char} (trimmed : Text.Trimmed field text)
      (literal : Binary64.LiteralText text value)

/-- The field holds a timestamp: digits after an optional sign, for a number of 64 bits. -/
inductive HoldsTimestamp (field : List Char) (timestamp : Int64) : Prop
  | number {text : List Char} {n : Int} (trimmed : Text.Trimmed field text)
      (number : Numeral.IntText text n) (low : -2 ^ 63 ≤ n) (high : n ≤ 2 ^ 63 - 1)
      (same : timestamp.toInt = n)

/-- The fields hold a reading. -/
inductive Holds : List (List Char) → Reading → Prop
  | reading {first second third : List Char} {r : Reading} (id : HoldsId first r.id)
      (value : HoldsValue second r.value) (timestamp : HoldsTimestamp third r.timestamp) :
      Holds [first, second, third] r

/-- What is wrong with the fields: their number, or else the first one that does not hold what it
should. -/
inductive Blames : List (List Char) → String → Prop
  | count {fields : List (List Char)} {found : String} (other : fields.length ≠ 3)
      (number : found = Numeral.textOfNat fields.length) :
      Blames fields s!"expected 3 fields, found {found}"
  | id {first second third : List Char} (wrong : ∀ id, ¬ HoldsId first id)
      (why : Numeral.Fault) : Blames [first, second, third] s!"invalid id: {why.message}"
  | value {first second third : List Char} {id : UInt16} (before : HoldsId first id)
      (wrong : ∀ value, ¬ HoldsValue second value) (why : Binary64.LiteralFault) :
      Blames [first, second, third] s!"invalid value: {why.message}"
  | timestamp {first second third : List Char} {id : UInt16} {value : Binary64}
      (before : HoldsId first id) (before' : HoldsValue second value)
      (wrong : ∀ timestamp, ¬ HoldsTimestamp third timestamp) (why : Numeral.Fault) :
      Blames [first, second, third] s!"invalid timestamp: {why.message}"

section Fields

variable {field : List Char} {reason : String}

theorem readId_eq_ok_iff {id : UInt16} : readId field = .ok id ↔ HoldsId field id := by
  constructor
  · intro ok
    unfold readId at ok
    split at ok
    · next n read =>
      cases ok
      obtain ⟨number, fits⟩ := Numeral.readNat_eq_ok_iff.mp read
      have small : n < 2 ^ 16 := Nat.lt_succ_of_le fits
      exact .number (Text.trim_eq_iff.mp rfl) number fits (UInt16.toNat_ofNat_of_lt' small)
    · cases ok
  · rintro ⟨trimmed, number, fits, rfl⟩
    have within : id.toNat ≤ maxId := fits
    rw [readId, Text.trim_eq_iff.mpr trimmed, Numeral.readNat_eq_ok_iff.mpr ⟨number, within⟩]
    exact congrArg Except.ok UInt16.ofNat_toNat

theorem readValue_eq_ok_iff {value : Binary64} :
    readValue field = .ok value ↔ HoldsValue field value := by
  constructor
  · intro ok
    unfold readValue at ok
    split at ok
    · next read =>
      cases ok
      exact .literal (Text.trim_eq_iff.mp rfl) (Binary64.readLiteral_eq_ok_iff.mp read)
    · cases ok
  · rintro ⟨trimmed, literal⟩
    rw [readValue, Text.trim_eq_iff.mpr trimmed, Binary64.readLiteral_eq_ok_iff.mpr literal]

theorem readTimestamp_eq_ok_iff {timestamp : Int64} :
    readTimestamp field = .ok timestamp ↔ HoldsTimestamp field timestamp := by
  constructor
  · intro ok
    unfold readTimestamp at ok
    split at ok
    · next n read =>
      cases ok
      obtain ⟨number, low, high⟩ := Numeral.readInt_eq_ok_iff.mp read
      exact .number (Text.trim_eq_iff.mp rfl) number low high
        (Int64.toInt_ofInt_of_le low (Int.lt_of_le_sub_one high))
    · cases ok
  · rintro ⟨trimmed, number, low, high, rfl⟩
    have within : -((maxTimestamp + 1 : Nat) : Int) ≤ timestamp.toInt ∧
        timestamp.toInt ≤ (maxTimestamp : Int) := ⟨low, high⟩
    rw [readTimestamp, Text.trim_eq_iff.mpr trimmed,
      Numeral.readInt_eq_ok_iff.mpr ⟨number, within⟩]
    exact congrArg Except.ok (Int64.ofInt_toInt timestamp)

/-- What is not read is not held. -/
private theorem not_of_error {α : Type} {result : Except String α} {holds : α → Prop}
    (held : ∀ {a}, result = .ok a ↔ holds a) (error : result = .error reason) (a : α) :
    ¬ holds a := by
  intro holds
  rw [held.mpr holds] at error
  cases error

private theorem of_readId_error (error : readId field = .error reason) :
    ∃ why : Numeral.Fault, reason = s!"invalid id: {why.message}" := by
  unfold readId at error
  split at error
  · cases error
  · next why _ =>
    cases error
    exact ⟨why, rfl⟩

private theorem of_readValue_error (error : readValue field = .error reason) :
    ∃ why : Binary64.LiteralFault, reason = s!"invalid value: {why.message}" := by
  unfold readValue at error
  split at error
  · cases error
  · next why _ =>
    cases error
    exact ⟨why, rfl⟩

private theorem of_readTimestamp_error (error : readTimestamp field = .error reason) :
    ∃ why : Numeral.Fault, reason = s!"invalid timestamp: {why.message}" := by
  unfold readTimestamp at error
  split at error
  · cases error
  · next why _ =>
    cases error
    exact ⟨why, rfl⟩

end Fields

section Lines

variable {fields : List (List Char)}

/-- Fields are read in turn, and the first one that is wrong is blamed. -/
theorem readFields_spec (fields : List (List Char)) :
    (∃ r, readFields fields = .ok r ∧ Holds fields r) ∨
      ∃ reason, readFields fields = .error reason ∧ Blames fields reason := by
  by_cases three : ∃ first second third, fields = [first, second, third]
  · obtain ⟨first, second, third, rfl⟩ := three
    cases id : readId first with
    | error reason =>
      obtain ⟨why, rfl⟩ := of_readId_error id
      refine .inr ⟨_, ?_, .id (not_of_error readId_eq_ok_iff id) why⟩
      rw [readFields, id]
      rfl
    | ok =>
      have holdsId := readId_eq_ok_iff.mp id
      cases value : readValue second with
      | error reason =>
        obtain ⟨why, rfl⟩ := of_readValue_error value
        refine .inr ⟨_, ?_, .value holdsId (not_of_error readValue_eq_ok_iff value) why⟩
        rw [readFields, id, value]
        rfl
      | ok =>
        have holdsValue := readValue_eq_ok_iff.mp value
        cases timestamp : readTimestamp third with
        | error reason =>
          obtain ⟨why, rfl⟩ := of_readTimestamp_error timestamp
          refine .inr ⟨_, ?_, .timestamp holdsId holdsValue
            (not_of_error readTimestamp_eq_ok_iff timestamp) why⟩
          rw [readFields, id, value, timestamp]
          rfl
        | ok =>
          refine .inl ⟨⟨_, _, _⟩, ?_, .reading holdsId holdsValue
            (readTimestamp_eq_ok_iff.mp timestamp)⟩
          rw [readFields, id, value, timestamp]
          rfl
  · have other : fields.length ≠ 3 := fun length => three (List.length_eq_three.mp length)
    refine .inr ⟨_, ?_, .count other rfl⟩
    unfold readFields
    split
    · exact absurd ⟨_, _, _, rfl⟩ three
    · rfl

theorem readFields_eq_ok_iff {r : Reading} : readFields fields = .ok r ↔ Holds fields r := by
  constructor
  · intro ok
    obtain ⟨other, read, holds⟩ | ⟨reason, read, -⟩ := readFields_spec fields
    · obtain rfl := Except.ok.inj (ok.symm.trans read)
      exact holds
    · rw [read] at ok
      cases ok
  · rintro ⟨id, value, timestamp⟩
    rw [readFields, readId_eq_ok_iff.mpr id, readValue_eq_ok_iff.mpr value,
      readTimestamp_eq_ok_iff.mpr timestamp]
    rfl

theorem blames_of_readFields {reason : String} (error : readFields fields = .error reason) :
    Blames fields reason := by
  obtain ⟨r, read, -⟩ | ⟨other, read, blames⟩ := readFields_spec fields
  · rw [read] at error
    cases error
  · obtain rfl := Except.error.inj (error.symm.trans read)
    exact blames

/-- Every line is read as the reading that its fields hold. If they hold none, the fault gives the
line without its end and says what is wrong with them. -/
theorem reads_grammar (line : String) :
    ∃ content fields, Text.EndStripped isLineEnd line.toList content ∧
      Text.Divided ',' content fields ∧ (∀ r, parse line = .ok r ↔ Holds fields r) ∧
      ∀ fault, parse line = .error fault →
        ∃ reason, fault = .malformed (String.ofList content) reason ∧ Blames fields reason := by
  refine ⟨_, _, Text.dropEndWhile_eq_iff.mp rfl, Text.divided_pieces _ _, ?_, ?_⟩
  · intro r
    rw [← readFields_eq_ok_iff, parse]
    split
    · next read => rw [read, Except.ok.injEq, Except.ok.injEq]
    · next read =>
      rw [read]
      exact ⟨nofun, nofun⟩
  · intro fault error
    unfold parse at error
    dsimp only at error
    split at error
    · cases error
    · next reason read =>
      cases error
      exact ⟨reason, rfl, blames_of_readFields read⟩

/-- Half way between two values the even one is taken. -/
example : parse " +007 ,\t9007199254740993e0\u00a0,-1\r\n" = .ok ⟨7, ⟨0x4340000000000000⟩, -1⟩ := by
  decide +kernel

/-- All three fields are wrong. -/
example : parse "65536,1.5.2,x" = .error (.malformed "65536,1.5.2,x"
    "invalid id: number too large to fit in target type") := by
  decide +kernel

end Lines

end SensorRelay.Line
