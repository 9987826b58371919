import SensorRelay.Except
import SensorRelay.Proofs.Json.Number
import SensorRelay.Proofs.Json.Value
import SensorRelay.Reading.Json

/-! # Readings in JSON, read back

The members of an object are read one after the other, each from its key on (`member_id`,
`member_value`, `member_timestamp`). So a reading with a finite value comes back from its text
(`json_nearly_restored`), but the value may have moved.
-/

namespace SensorRelay.Reading

open Json (Fault Number Ends NearlyReads)

section Object

variable {rest : List Char}

/-- The characters of a string that need no escape stand for themselves. -/
theorem scanString_plain {strict : Bool} {text : List Char}
    (plain : ∀ c ∈ text, c ≠ '"' ∧ c ≠ '\\' ∧ 0x20 ≤ c.toNat) :
    Json.scanString strict (text ++ '"' :: rest) = .ok (text, rest) := by
  have itself : ∀ c ∈ text, Json.Stands c [c] := fun c listed =>
    .itself (plain c listed).1 (plain c listed).2.1 (plain c listed).2.2
  have scanned := Json.scanString_flatMap itself strict rest
  rwa [List.flatMap_singleton'] at scanned

/-- A name that needs no escape in a string. -/
def Plain (key : String) : Prop := ∀ c ∈ key.toList, c ≠ '"' ∧ c ≠ '\\' ∧ 0x20 ≤ c.toNat

/-- A key stands between quotes, the first after the brace and any other after a comma. -/
theorem nextKey_quoted {key : String} (plain : Plain key) :
    nextKey true ('"' :: (key.toList ++ '"' :: rest)) = .ok (some key, rest) ∧
      nextKey false (',' :: '"' :: (key.toList ++ '"' :: rest)) = .ok (some key, rest) := by
  have scanned : Json.scanString true (key.toList ++ '"' :: rest) = .ok (key.toList, rest) :=
    scanString_plain plain
  have found : (Json.scanString true (key.toList ++ '"' :: rest)).map
      (fun read => (some (String.ofList read.1), read.2)) = .ok (some key, rest) := by
    rw [scanned]
    exact congrArg (fun text => Except.ok (some text, rest)) String.ofList_toList
  exact ⟨found, found⟩

theorem ends_comma : Ends (',' :: rest) := by
  intro c ahead
  obtain rfl := Option.some.inj ahead
  decide

theorem ends_brace : Ends ('\x7d' :: rest) := by
  intro c ahead
  obtain rfl := Option.some.inj ahead
  decide

end Object

section Members

variable {m : Members} {rest : List Char}

@[simp] theorem afterColon_colon : afterColon (':' :: rest) = .ok rest := rfl

theorem readNumber_eq {α : Type} {convert : Number → Except Fault α} {number : Number} {a : α}
    {text : List Char} (read : Json.expectNumber text = .ok (number, rest))
    (converted : convert number = .ok a) : readNumber convert text = .ok (a, rest) := by
  simp only [readNumber, read, converted, Except.bind_eq_bind, Except.ok_bind, Except.pure_eq_ok]

theorem member_id (missing : m.id = none) (id : UInt16) (ends : Ends rest) :
    readMember m "id" (':' :: (Numeral.ofNat id.toNat ++ rest)) =
      .ok ({ m with id := some id }, rest) := by
  have small := id.toNat_lt
  have read := Json.expectNumber_ofInt (n := id.toNat) (by omega) (by omega) ends
  have unsigned : ¬ (id.toNat : Int) < 0 := by omega
  rw [Numeral.ofInt, if_neg unsigned, if_neg unsigned, Int.natAbs_natCast] at read
  have converted : idOfNumber (.natural id.toNat) = .ok id := by
    rw [idOfNumber, if_pos small, UInt16.ofNat_toNat]
  simp only [readMember, missing, Option.isSome_none, Bool.false_eq_true, if_false,
    afterColon_colon, readNumber_eq read converted, Except.bind_eq_bind, Except.ok_bind,
    Except.pure_eq_ok]

theorem member_value (missing : m.value = none) {text : List Char} {y : Binary64}
    (read : Json.expectNumber (text ++ rest) = .ok (.real y, rest)) :
    readMember m "value" (':' :: (text ++ rest)) = .ok ({ m with value := some y }, rest) := by
  have number : readNumber (fun n => .ok (valueOfNumber n)) (text ++ rest) = .ok (y, rest) :=
    readNumber_eq read rfl
  simp only [readMember, missing, Option.isSome_none, Bool.false_eq_true, if_false,
    afterColon_colon, number, Except.bind_eq_bind, Except.ok_bind, Except.pure_eq_ok]

theorem timestampOfNumber_eq (timestamp : Int64) :
    timestampOfNumber (if timestamp.toInt < 0 then .negative timestamp.toInt.natAbs
      else .natural timestamp.toInt.natAbs) = .ok timestamp := by
  have high := timestamp.toInt_lt
  split
  · next below =>
    have size : -(timestamp.toInt.natAbs : Int) = timestamp.toInt := by omega
    rw [timestampOfNumber, size, Int64.ofInt_toInt]
  · next above =>
    have size : (timestamp.toInt.natAbs : Int) = timestamp.toInt := by omega
    rw [timestampOfNumber, if_pos (by omega), size, Int64.ofInt_toInt]

theorem member_timestamp (missing : m.timestamp = none) (timestamp : Int64) (ends : Ends rest) :
    readMember m "timestamp" (':' :: (Numeral.ofInt timestamp.toInt ++ rest)) =
      .ok ({ m with timestamp := some timestamp }, rest) := by
  have read := Json.expectNumber_ofInt timestamp.le_toInt timestamp.toInt_lt ends
  have number := readNumber_eq read (timestampOfNumber_eq timestamp)
  simp only [readMember, missing, Option.isSome_none, Bool.false_eq_true, if_false,
    afterColon_colon, number, Except.bind_eq_bind, Except.ok_bind, Except.pure_eq_ok]

section Keys

variable {rounds : Nat} {key : String} {m' : Members} {text : List Char}

/-- One member, with its key, is read before the others. -/
theorem readMembers_first (plain : Plain key) (member : readMember m key text = .ok (m', rest)) :
    readMembers (rounds + 1) m true ('"' :: (key.toList ++ '"' :: text)) =
      readMembers rounds m' false rest := by
  rw [readMembers, (nextKey_quoted plain).1]
  simp only [Except.bind_eq_bind, Except.ok_bind, member]

theorem readMembers_next (plain : Plain key) (member : readMember m key text = .ok (m', rest)) :
    readMembers (rounds + 1) m false (',' :: '"' :: (key.toList ++ '"' :: text)) =
      readMembers rounds m' false rest := by
  rw [readMembers, (nextKey_quoted plain).2]
  simp only [Except.bind_eq_bind, Except.ok_bind, member]

end Keys

end Members

section Text

variable {r : Reading}

/-- The members of a reading up to the brace at their end, around the text of the value. -/
def memberChars (r : Reading) (value : List Char) : List Char :=
  '"' :: ("id".toList ++ '"' :: ':' :: (Numeral.ofNat r.id.toNat ++
    ',' :: '"' :: ("value".toList ++ '"' :: ':' :: (value ++
      ',' :: '"' :: ("timestamp".toList ++ '"' :: ':' :: (Numeral.ofInt r.timestamp.toInt ++
        ['\x7d']))))))

theorem toList_json (finite : r.value.isFinite = true) :
    r.json.toList = '\x7b' :: memberChars r r.value.shortestText := by
  unfold json memberChars
  simp only [finite, if_true, Numeral.textOfNat, Numeral.textOfInt, toString, String.toList_append,
    String.toList_ofList, List.append_assoc]
  rfl

/-- The members give the reading, with the value that its text is read as. -/
theorem readMembers_memberChars {value : List Char} {y : Binary64}
    (read : ∀ rest, Ends rest → Json.expectNumber (value ++ rest) = .ok (.real y, rest))
    (rounds : Nat) :
    readMembers (rounds + 4) ⟨none, none, none⟩ true (memberChars r value) =
      .ok ({ r with value := y }, []) := by
  have plain : Plain "id" ∧ Plain "value" ∧ Plain "timestamp" := by
    unfold Plain
    simp
  unfold memberChars
  rw [readMembers_first plain.1 (member_id rfl r.id ends_comma),
    readMembers_next plain.2.1 (member_value rfl (read _ ends_comma)),
    readMembers_next plain.2.2 (member_timestamp rfl r.timestamp ends_brace)]
  rfl

/-- A reading with a finite value comes back from its text with its id and its timestamp, and with
the value that its digits are read as. So it is restored exactly if scaling these digits hits the
value. -/
theorem json_nearly_restored (finite : r.value.isFinite = true) :
    ∃ d y, Binary64.Spells (Binary64.shortestSize r.value.pattern) d ∧ NearlyReads d r.value y ∧
      ofJson r.json = .ok { r with value := y } ∧
      (ofJson r.json = .ok r ↔
        Json.scale (Binary64.nearestNat d.coefficient) d.exponent = .ok r.value.pattern) := by
  obtain ⟨d, y, spells, near, read⟩ := Json.expectNumber_shortestText finite
  suffices restored : ofJson r.json = .ok { r with value := y } by
    refine ⟨d, y, spells, near, restored, ?_⟩
    rw [restored, ← near.eq_iff, Except.ok.injEq]
    constructor
    · intro same
      exact congrArg Reading.value same
    · rintro rfl
      rfl
  have members := readMembers_memberChars (r := r) read
  obtain ⟨rounds, enough⟩ : ∃ rounds, (memberChars r r.value.shortestText).length + 1 =
      rounds + 4 := by
    refine Nat.exists_eq_add_of_le' ?_
    simp only [memberChars, List.length_cons, List.length_append]
    omega
  have skipped : Json.skipBlanks ('\x7b' :: memberChars r r.value.shortestText) =
      '\x7b' :: memberChars r r.value.shortestText := rfl
  rw [ofJson, toList_json finite, skipped]
  simp only [enough, members, Except.bind_eq_bind, Except.ok_bind]
  rfl

theorem json_nearly_restored_half :
    json ⟨15, ⟨0x400c000000000000⟩, 1000⟩ =
        "\x7b\"id\":15,\"value\":3.5,\"timestamp\":1000\x7d" ∧
      ofJson (json ⟨15, ⟨0x400c000000000000⟩, 1000⟩) = .ok ⟨15, ⟨0x400c000000000000⟩, 1000⟩ ∧
      ∃ d, Binary64.Spells (Binary64.shortestSize (Binary64.pattern ⟨0x400c000000000000⟩)) d ∧
        NearlyReads d ⟨0x400c000000000000⟩ ⟨0x400c000000000000⟩ ∧
        Json.scale (Binary64.nearestNat d.coefficient) d.exponent = .ok 0x400c000000000000 := by
  have finite : Binary64.isFinite ⟨0x400c000000000000⟩ = true := by decide
  obtain ⟨d, y, spells, near, read, restores⟩ :=
    json_nearly_restored (r := ⟨15, ⟨0x400c000000000000⟩, 1000⟩) finite
  have known : ofJson (json ⟨15, ⟨0x400c000000000000⟩, 1000⟩) =
      .ok ⟨15, ⟨0x400c000000000000⟩, 1000⟩ := by decide +kernel
  obtain rfl : ⟨0x400c000000000000⟩ = y :=
    congrArg Reading.value (Except.ok.inj (known.symm.trans read))
  exact ⟨by decide +kernel, known, d, spells, near, restores.mp known⟩

/-- The value `9007199254740991` is one of those that move: its last digit is a tenth, so that its
digits are more than a mantissa can count, and what they are rounded to is rounded once more. -/
theorem json_not_restored : ¬ ∀ r : Reading, r.value.isFinite = true → ofJson r.json = .ok r := by
  intro restored
  have moved : ofJson (json ⟨1, ⟨0x433fffffffffffff⟩, 0⟩) = .ok ⟨1, ⟨0x433ffffffffffffe⟩, 0⟩ := by
    decide +kernel
  have same := restored ⟨1, ⟨0x433fffffffffffff⟩, 0⟩ (by decide)
  rw [moved] at same
  exact absurd same (by decide)

end Text

end SensorRelay.Reading
