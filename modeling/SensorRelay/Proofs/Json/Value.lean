import SensorRelay.Except
import SensorRelay.Json.Text
import SensorRelay.Json.Value
import Mathlib.Data.List.Forall2

/-! # JSON strings and objects read back

Whatever a character is written as in a string (`Stands`), it is read back from there and nothing
after it is touched. So a string comes back from its text, and an object comes back from its text
as long as the texts of its values show by themselves where they end (`Closed`). No control
character is left in either.
-/

namespace SensorRelay.Json

section Strings

variable {strict : Bool} {c : Char} {ahead rest : List Char}

theorem hexDigit?_hexChar : ∀ d < 16, hexDigit? (hexChar d) = some d := by decide

/-- An escape is read as its character. -/
theorem scanString_escape (read : scanEscape strict ahead = .ok (c, rest)) :
    scanString strict ('\\' :: ahead) =
      (scanString strict rest).map fun (text, after) => (c :: text, after) := by
  rw [scanString]
  split
  · next failed =>
    rw [read] at failed
    cases failed
  · next found =>
    rw [read] at found
    cases found
    rfl

/-- A control character without a letter for it is escaped by its number. -/
theorem scanEscape_number (control : c.toNat < 0x20) :
    scanEscape strict
        ('u' :: '0' :: '0' :: hexChar (c.toNat / 16) :: hexChar (c.toNat % 16) :: rest) =
      .ok (c, rest) := by
  have zero : hexDigit? '0' = some 0 := by decide
  have high : hexDigit? (hexChar (c.toNat / 16)) = some (c.toNat / 16) :=
    hexDigit?_hexChar _ (by omega)
  have low : hexDigit? (hexChar (c.toNat % 16)) = some (c.toNat % 16) :=
    hexDigit?_hexChar _ (by omega)
  have value : ((0 * 16 + 0) * 16 + c.toNat / 16) * 16 + c.toNat % 16 = c.toNat := by omega
  have unit : scanHex ('0' :: '0' :: hexChar (c.toNat / 16) :: hexChar (c.toNat % 16) :: rest) =
      .ok (c.toNat, rest) := by
    simp only [scanHex, List.take_succ_cons, List.take_zero, List.mapM_cons, List.mapM_nil, zero,
      high, low, Option.pure_def, Option.bind_eq_bind, Option.bind_some, value, List.drop_succ_cons,
      List.drop_zero]
  have leading : isLeadingSurrogate c.toNat = false := by
    simp only [isLeadingSurrogate, Bool.and_eq_false_iff, decide_eq_false_iff_not]
    omega
  have trailing : isTrailingSurrogate c.toNat = false := by
    simp only [isTrailingSurrogate, Bool.and_eq_false_iff, decide_eq_false_iff_not]
    omega
  simp only [scanEscape, unit, Except.bind_eq_bind, Except.ok_bind, leading, trailing,
    Char.ofNat_toNat, Bool.false_eq_true, if_false, ite_self]

/-- What a character may be written as in a string: a backslash and a letter, its number, or
itself. -/
inductive Stands (c : Char) : List Char → Prop
  | letter {letter : Char} (visible : 0x20 ≤ letter.toNat)
    (read : ∀ strict rest, scanEscape strict (letter :: rest) = .ok (c, rest)) :
    Stands c ['\\', letter]
  | number (control : c.toNat < 0x20) :
    Stands c ['\\', 'u', '0', '0', hexChar (c.toNat / 16), hexChar (c.toNat % 16)]
  | itself (quote : c ≠ '"') (escape : c ≠ '\\') (visible : 0x20 ≤ c.toNat) : Stands c [c]

theorem stands_escaped (c : Char) : Stands c (escaped c) := by
  unfold escaped
  split_ifs with quote escape newline carriage tab backspace feed control
  · subst quote
    exact .letter (by decide) fun _ _ => rfl
  · subst escape
    exact .letter (by decide) fun _ _ => rfl
  · subst newline
    exact .letter (by decide) fun _ _ => rfl
  · subst carriage
    exact .letter (by decide) fun _ _ => rfl
  · subst tab
    exact .letter (by decide) fun _ _ => rfl
  · subst backspace
    exact .letter (by decide) fun _ _ => rfl
  · subst feed
    exact .letter (by decide) fun _ _ => rfl
  · exact .number control
  · exact .itself quote escape (Nat.le_of_not_lt control)

/-- A character is read back from what it is written as, whatever follows. -/
theorem Stands.scanString_append {written : List Char} (stands : Stands c written)
    (strict : Bool) (rest : List Char) :
    scanString strict (written ++ rest) =
      (scanString strict rest).map fun (text, after) => (c :: text, after) := by
  cases stands with
  | letter _ read => exact scanString_escape (read strict rest)
  | number control => exact scanString_escape (scanEscape_number control)
  | itself quote escape visible =>
    rw [List.singleton_append, scanString, if_neg (Nat.not_lt.mpr visible)]
    · exact quote
    · exact escape

/-- A string is read back, up to the quote at its end, if all its characters are written in some way
that is read back. -/
theorem scanString_flatMap {write : Char → List Char} {text : List Char}
    (stands : ∀ c ∈ text, Stands c (write c)) (strict : Bool) (rest : List Char) :
    scanString strict (text.flatMap write ++ '"' :: rest) = .ok (text, rest) := by
  induction text with
  | nil => rw [List.flatMap_nil, List.nil_append, scanString]
  | cons c others ih =>
    rw [List.forall_mem_cons] at stands
    rw [List.flatMap_cons, List.append_assoc, stands.1.scanString_append, ih stands.2]
    rfl

theorem scanString_escaped (strict : Bool) (text rest : List Char) :
    scanString strict (text.flatMap escaped ++ '"' :: rest) = .ok (text, rest) :=
  scanString_flatMap (fun c _ => stands_escaped c) strict rest

end Strings

section Visible

/-- No control character. -/
def Visible (text : List Char) : Prop := ∀ c ∈ text, 0x20 ≤ c.toNat

theorem visible_hexChar : ∀ d < 16, 0x20 ≤ (hexChar d).toNat := by decide

theorem Stands.visible {c : Char} {written : List Char} (stands : Stands c written) :
    Visible written := by
  cases stands with
  | letter visible _ => simpa [Visible] using visible
  | number control =>
    have high := visible_hexChar (c.toNat / 16) (by omega)
    have low := visible_hexChar (c.toNat % 16) (by omega)
    simpa [Visible] using ⟨high, low⟩
  | itself _ _ visible => simpa [Visible] using visible

@[simp] theorem visible_nil : Visible [] := nofun

@[simp] theorem visible_cons {c : Char} {text : List Char} :
    Visible (c :: text) ↔ 0x20 ≤ c.toNat ∧ Visible text := List.forall_mem_cons

@[simp] theorem visible_append {text other : List Char} :
    Visible (text ++ other) ↔ Visible text ∧ Visible other := List.forall_mem_append

theorem visible_quotedChars (text : List Char) : Visible (quotedChars text) := by
  have inner : Visible (text.flatMap escaped) := by
    intro d listed
    obtain ⟨c, _, written⟩ := List.mem_flatMap.mp listed
    exact (stands_escaped c).visible d written
  simp [quotedChars, inner]

end Visible

section Objects

section Items

variable {α : Type} {item : List Char → Except Fault (α × List Char)} {closing c : Char}
  {rounds : Nat} {ahead rest after : List Char} {found : α} {others : List α}

/-- The first item stands at the start. -/
theorem readItems_first (visible : isBlank c = false) (goesOn : c ≠ closing)
    (read : item (c :: ahead) = .ok (found, rest))
    (later : readItems item closing rounds false rest = .ok (others, after)) :
    readItems item closing (rounds + 1) true (c :: ahead) = .ok (found :: others, after) := by
  have start : skipBlanks (c :: ahead) = c :: ahead :=
    List.dropWhile_cons_of_neg (by simp [visible])
  simp only [readItems, start, if_neg goesOn, if_true, Except.bind_eq_bind, read, later,
    Except.ok_bind, Except.pure_eq_ok]

/-- Any other item stands after a comma. -/
theorem readItems_next (goesOn : ',' ≠ closing) (read : item ahead = .ok (found, rest))
    (later : readItems item closing rounds false rest = .ok (others, after)) :
    readItems item closing (rounds + 1) false (',' :: ahead) = .ok (found :: others, after) := by
  have start : skipBlanks (',' :: ahead) = ',' :: ahead := rfl
  simp only [readItems, start, if_neg goesOn, Bool.false_eq_true, if_false, if_true,
    Except.bind_eq_bind, read, later, Except.ok_bind, Except.pure_eq_ok]

end Items

/-- A member as it stands in an object. -/
def memberChars (member : String × String) : List Char :=
  quotedChars member.1.toList ++ ':' :: member.2.toList

/-- A text that is read as a value and shows by itself where it ends. -/
def Closed (depth : Nat) (text : List Char) (value : Value) : Prop :=
  ∀ rest, readValue depth (text ++ rest) = .ok (value, rest)

/-- A member whose value is read back. -/
structure Member (depth : Nat) (written : String × String) (read : String × Value) : Prop where
  name : written.1 = read.1
  value : Closed depth written.2.toList read.2

variable {depth : Nat} {written : List (String × String)} {read : List (String × Value)}

theorem quotedChars_append (text rest : List Char) :
    quotedChars text ++ rest = '"' :: (text.flatMap escaped ++ '"' :: rest) := by
  simp [quotedChars]

theorem closed_quoted (depth : Nat) (text : String) :
    Closed depth (quoted text).toList (.text text) := by
  intro rest
  have scanned := scanString_escaped true text.toList rest
  rw [quoted, String.toList_ofList, quotedChars_append, readValue.eq_def]
  change (scanString true (text.toList.flatMap escaped ++ '"' :: rest)).map _ = _
  rw [scanned]
  exact congrArg (fun found => Except.ok (Value.text found, rest)) String.ofList_toList

theorem readMember_append {w : String × String} {r : String × Value} (member : Member depth w r)
    (rest : List Char) :
    readMember (readValue depth) (memberChars w ++ rest) = .ok (r, rest) := by
  have scanned := scanString_escaped true w.1.toList (':' :: (w.2.toList ++ rest))
  rw [memberChars, List.append_assoc, quotedChars_append, List.cons_append]
  change (scanString true _ >>= _) = _
  rw [scanned]
  change (readValue depth (w.2.toList ++ rest) >>= _) = _
  rw [member.value rest]
  change Except.ok ((String.ofList w.1.toList, r.2), rest) = _
  rw [String.ofList_toList, member.name]

/-- Members that follow others are read one by one, as long as the rounds suffice. -/
theorem readItems_members (each : List.Forall₂ (Member depth) written read) (spare : Nat)
    (rest : List Char) :
    readItems (readMember (readValue depth)) '\x7d' (spare + written.length + 1) false
        (written.flatMap (fun w => ',' :: memberChars w) ++ '\x7d' :: rest) = .ok (read, rest) := by
  induction each with
  | nil => rfl
  | @cons w r ws rs member _ ih =>
    rw [List.flatMap_cons, List.cons_append, List.cons_append, List.append_assoc]
    exact readItems_next (by decide) (readMember_append member _) ih

theorem intercalate_comma (first : List Char) (others : List (List Char)) :
    [','].intercalate (first :: others) = first ++ others.flatMap (',' :: ·) := by
  induction others generalizing first with
  | nil => simp
  | cons next others ih =>
    rw [List.intercalate_cons_cons, ih, List.flatMap_cons]
    simp

theorem toList_object (members : List (String × String)) :
    (object members).toList =
      '\x7b' :: ([','].intercalate (members.map memberChars) ++ ['\x7d']) := by
  let text (member : String × String) : String := s!"{quoted member.1}:{member.2}"
  have each : members.map (String.toList ∘ text) = members.map memberChars := by
    refine List.map_congr_left fun member _ => ?_
    simp [text, memberChars, quoted, toString]
  change ("\x7b" ++ String.intercalate "," (members.map text) ++ "\x7d").toList = _
  rw [String.toList_append, String.toList_append, String.toList_intercalate, List.map_map, each]
  rfl

/-- Every member takes up a character, so there are rounds enough for all of them. -/
theorem length_le_intercalate (members : List (String × String)) :
    members.length ≤ ([','].intercalate (members.map memberChars)).length := by
  cases members with
  | nil => exact Nat.zero_le _
  | cons first others =>
    have one : 1 ≤ (memberChars first).length := by simp [memberChars, quotedChars]
    have each : others.length ≤ ((others.map memberChars).flatMap (',' :: ·)).length := by
      induction others with
      | nil => exact Nat.zero_le _
      | cons next others ih =>
        simp only [List.map_cons, List.flatMap_cons, List.length_append, List.length_cons]
        omega
    rw [List.map_cons, intercalate_comma, List.length_append, List.length_cons]
    omega

theorem readItems_object (each : List.Forall₂ (Member depth) written read) (spare : Nat)
    (rest : List Char) :
    readItems (readMember (readValue depth)) '\x7d' (spare + written.length + 1) true
        ([','].intercalate (written.map memberChars) ++ '\x7d' :: rest) = .ok (read, rest) := by
  cases each with
  | nil => rfl
  | @cons w r ws rs member others =>
    have later := readItems_members others spare rest
    have first := readMember_append member
      (ws.flatMap (fun w => ',' :: memberChars w) ++ '\x7d' :: rest)
    rw [List.map_cons, intercalate_comma, List.flatMap_map, List.append_assoc]
    -- A member starts with a quote, which is neither blank nor a bracket.
    rw [memberChars, List.append_assoc, quotedChars_append] at first ⊢
    exact readItems_first (by decide) (by decide) first later

/-- An object is read back from the texts of its members. -/
theorem closed_object (each : List.Forall₂ (Member depth) written read) :
    Closed (depth + 1) (object written).toList (.object read) := by
  intro rest
  obtain ⟨spare, rounds⟩ : ∃ spare,
      ([','].intercalate (written.map memberChars) ++ '\x7d' :: rest).length =
        spare + written.length := by
    refine Nat.exists_eq_add_of_le' (Nat.le_trans (length_le_intercalate written) ?_)
    rw [List.length_append]
    exact Nat.le_add_right _ _
  rw [toList_object, List.cons_append, List.append_assoc, List.singleton_append, readValue.eq_def]
  change (readItems (readMember (readValue depth)) '\x7d' (_ + 1) true _).map _ = _
  rw [rounds, readItems_object each]
  rfl

theorem read_of_closed {text : String} {value : Value} (closed : Closed deepest text.toList value) :
    Json.read text = .ok value := by
  have whole := closed []
  rw [List.append_nil] at whole
  rw [Json.read, whole]
  rfl

theorem visible_intercalate {texts : List (List Char)} (each : ∀ text ∈ texts, Visible text) :
    Visible ([','].intercalate texts) := by
  cases texts with
  | nil => exact visible_nil
  | cons first others =>
    rw [List.forall_mem_cons] at each
    rw [intercalate_comma, visible_append]
    refine ⟨each.1, fun c listed => ?_⟩
    obtain ⟨text, other, inside⟩ := List.mem_flatMap.mp listed
    exact visible_cons.mpr ⟨by decide, each.2 text other⟩ c inside

/-- An object holds no control character as long as its values hold none. -/
theorem visible_object (each : ∀ w ∈ written, Visible w.2.toList) :
    Visible (object written).toList := by
  have members : ∀ text ∈ written.map memberChars, Visible text := by
    refine List.forall_mem_map.mpr fun w listed => ?_
    simp [memberChars, visible_quotedChars, each w listed]
  rw [toList_object]
  simp [visible_intercalate members]

end Objects

end SensorRelay.Json
