import SensorRelay.Binary64.Literal
import SensorRelay.Proofs.Binary64.Decimal
import Mathlib.Data.List.TakeWhile

/-! # What a literal stands for

The grammar of literals is stated as relations between a text and what it stands for, and each
reader is compared with its relation in both directions. The relations leave no choice, as digits
are never followed by a digit that is not one of them. A decimal is read as the value it is rounded
to (`readLiteral_eq_ok_iff`).
-/

namespace SensorRelay.Binary64

/-- Nothing, or a mark with a whole number behind it. -/
inductive ExponentText : List Char → Int → Prop
  | missing : ExponentText [] 0
  | marked {mark : Char} {text : List Char} {n : Int} (letter : mark = 'e' ∨ mark = 'E')
      (number : Numeral.IntText text n) : ExponentText (mark :: text) n

/-- Digits, with or without a point before, among or behind them, and then an exponent. -/
inductive DecimalText : List Char → Decimal → Prop
  | plain {whole power : List Char} {c : Nat} {n : Int} (digits : Numeral.DigitsText whole c)
      (exponent : ExponentText power n) : DecimalText (whole ++ power) ⟨c, n⟩
  | point {whole fraction power : List Char} {c : Nat} {n : Int}
      (digits : Numeral.DigitsText (whole ++ fraction) c) (exponent : ExponentText power n) :
      DecimalText (whole ++ '.' :: (fraction ++ power)) ⟨c, n - fraction.length⟩

/-- A literal behind its sign. -/
inductive SizeText (negative : Bool) : List Char → Binary64 → Prop
  | infinity {text : List Char} (word : text.map Char.toLower = ['i', 'n', 'f'] ∨
      text.map Char.toLower = ['i', 'n', 'f', 'i', 'n', 'i', 't', 'y']) :
      SizeText negative text (infinity negative)
  | nan {text : List Char} (word : text.map Char.toLower = ['n', 'a', 'n']) :
      SizeText negative text (nan negative)
  | decimal {text : List Char} {d : Decimal} {v : Binary64} (decimal : DecimalText text d)
      (rounded : Rounded negative d.toRat v) : SizeText negative text v

/-- A literal, with an optional sign. -/
inductive LiteralText : List Char → Binary64 → Prop
  | unsigned {text : List Char} {v : Binary64} (size : SizeText false text v) : LiteralText text v
  | plus {text : List Char} {v : Binary64} (size : SizeText false text v) :
      LiteralText ('+' :: text) v
  | minus {text : List Char} {v : Binary64} (size : SizeText true text v) :
      LiteralText ('-' :: text) v

section Exponent

variable {text : List Char} {n : Int}

/-- What is taken for digits is digits. -/
private theorem digits_iff {digits : List Char} (f : Nat → Int) :
    (if digits.isEmpty || !digits.all Numeral.isDigit then none
      else some (f (Numeral.valueFrom 0 digits))) = some n ↔
    ∃ size, Numeral.DigitsText digits size ∧ f size = n := by
  have test : (digits.isEmpty || !digits.all Numeral.isDigit) = false ↔
      digits ≠ [] ∧ ∀ c ∈ digits, c.isDigit = true := by
    simp [Numeral.isDigit_eq]
  constructor
  · intro read
    split at read
    · cases read
    · next taken =>
      obtain ⟨nonempty, all⟩ := test.mp (Bool.eq_false_iff.mpr taken)
      exact ⟨_, ⟨nonempty, all, (Numeral.valueFrom_eq 0 digits).symm⟩, Option.some.inj read⟩
  · rintro ⟨size, ⟨nonempty, all, value⟩, rfl⟩
    rw [test.mpr ⟨nonempty, all⟩, if_neg (by decide), Numeral.valueFrom_eq, value]

theorem readExponent_eq_some_iff : readExponent text = some n ↔ ExponentText text n := by
  constructor
  · intro read
    unfold readExponent at read
    split at read
    · cases read
      exact .missing
    · split at read
      · next mark =>
        refine .marked mark ?_
        dsimp only at read
        split at read
        · obtain ⟨size, digits, rfl⟩ := (digits_iff fun size => -size).mp read
          exact .minus digits
        · obtain ⟨size, digits, rfl⟩ := (digits_iff Int.ofNat).mp read
          exact .plus digits
        · obtain ⟨size, digits, rfl⟩ := (digits_iff Int.ofNat).mp read
          exact .unsigned digits
      · cases read
  · rintro (_ | ⟨mark, number⟩)
    · rfl
    · unfold readExponent
      dsimp only
      rw [if_pos mark]
      cases number with
      | unsigned digits =>
        split
        · exact absurd digits.head (by decide)
        · exact absurd digits.head (by decide)
        · exact (digits_iff Int.ofNat).mpr ⟨_, digits, rfl⟩
      | plus digits => exact (digits_iff Int.ofNat).mpr ⟨_, digits, rfl⟩
      | minus digits => exact (digits_iff fun size => -size).mpr ⟨_, digits, rfl⟩

end Exponent

section Decimal

variable {text : List Char} {d : Decimal} {p : Nat}

theorem ExponentText.stops {n : Int} (exponent : ExponentText text n) :
    ∀ c ∈ text.head?, Numeral.isDigit c = false ∧ c ≠ '.' := by
  intro c ahead
  cases exponent with
  | missing => cases ahead
  | marked mark =>
    obtain rfl := Option.some.inj ahead
    obtain rfl | rfl := mark <;> decide

/-- What is read when the digits on both sides of the point have been taken. -/
private def ofParts (whole fraction power : List Char) : Option Nat :=
  if whole.isEmpty && fraction.isEmpty then none
  else (readExponent power).map fun n =>
    nearestDecimal (Numeral.valueFrom 0 (whole ++ fraction)) (n - fraction.length)

private theorem readDecimal_point {rest : List Char}
    (left : text.dropWhile Numeral.isDigit = '.' :: rest) :
    readDecimal text = ofParts (text.takeWhile Numeral.isDigit) (rest.takeWhile Numeral.isDigit)
      (rest.dropWhile Numeral.isDigit) := by
  simp only [readDecimal, left, ofParts]
  cases readExponent (rest.dropWhile Numeral.isDigit) <;> rfl

private theorem readDecimal_plain
    (left : ∀ rest, text.dropWhile Numeral.isDigit ≠ '.' :: rest) :
    readDecimal text =
      ofParts (text.takeWhile Numeral.isDigit) [] (text.dropWhile Numeral.isDigit) := by
  unfold readDecimal
  dsimp only
  split
  · next point => exact absurd point (left _)
  · unfold ofParts
    cases readExponent (text.dropWhile Numeral.isDigit) <;> rfl

private theorem ofParts_eq_some_iff {whole fraction power : List Char} :
    ofParts whole fraction power = some p ↔ whole ++ fraction ≠ [] ∧
      ∃ n, ExponentText power n ∧
        nearestDecimal (Numeral.valueFrom 0 (whole ++ fraction)) (n - fraction.length) = p := by
  have test : (whole.isEmpty && fraction.isEmpty) = true ↔ whole ++ fraction = [] := by simp
  unfold ofParts
  rw [ite_eq_iff, test, Option.map_eq_some_iff]
  simp only [readExponent_eq_some_iff, reduceCtorEq, and_false, false_or, ne_eq]

private theorem digits_taken (text : List Char) :
    ∀ c ∈ text.takeWhile Numeral.isDigit, c.isDigit = true :=
  fun c listed => Numeral.isDigit_eq c ▸ List.mem_takeWhile_imp listed

theorem decimalText_of_readDecimal (read : readDecimal text = some p) :
    ∃ d, DecimalText text d ∧ nearestDecimal d.coefficient d.exponent = p := by
  have split : text.takeWhile Numeral.isDigit ++ text.dropWhile Numeral.isDigit = text :=
    List.takeWhile_append_dropWhile
  have value (digits : List Char) :
      Nat.ofDigitChars 10 digits 0 = Numeral.valueFrom 0 digits :=
    (Numeral.valueFrom_eq 0 digits).symm
  by_cases point : ∃ rest, text.dropWhile Numeral.isDigit = '.' :: rest
  · obtain ⟨rest, left⟩ := point
    rw [readDecimal_point left] at read
    obtain ⟨nonempty, n, exponent, read⟩ := ofParts_eq_some_iff.mp read
    have all := List.forall_mem_append.mpr ⟨digits_taken text, digits_taken rest⟩
    have decimal := DecimalText.point ⟨nonempty, all, value _⟩ exponent
    rw [List.takeWhile_append_dropWhile, ← left, split] at decimal
    exact ⟨_, decimal, read⟩
  · rw [readDecimal_plain (not_exists.mp point)] at read
    obtain ⟨nonempty, n, exponent, read⟩ := ofParts_eq_some_iff.mp read
    rw [List.append_nil] at nonempty read
    have decimal := DecimalText.plain ⟨nonempty, digits_taken text, value _⟩ exponent
    rw [split] at decimal
    rw [List.length_nil, Nat.cast_zero, Int.sub_zero] at read
    exact ⟨_, decimal, read⟩

theorem readDecimal_of_decimalText (decimal : DecimalText text d) :
    readDecimal text = some (nearestDecimal d.coefficient d.exponent) := by
  cases decimal with
  | @plain whole power c n digits exponent =>
    have all : ∀ c ∈ whole, Numeral.isDigit c = true :=
      fun c listed => (Numeral.isDigit_eq c).trans (digits.all c listed)
    obtain ⟨taken, left⟩ := Numeral.span_digits all fun c ahead => (exponent.stops c ahead).1
    have noPoint : ∀ rest, (whole ++ power).dropWhile Numeral.isDigit ≠ '.' :: rest := by
      intro rest point
      rw [left] at point
      exact (exponent.stops '.' (point ▸ rfl)).2 rfl
    rw [readDecimal_plain noPoint, taken, left, ofParts_eq_some_iff, List.append_nil,
      Numeral.valueFrom_eq, digits.value]
    exact ⟨digits.nonempty, n, exponent, by rw [List.length_nil, Nat.cast_zero, Int.sub_zero]⟩
  | @point whole fraction power c n digits exponent =>
    have all : ∀ c ∈ whole ++ fraction, Numeral.isDigit c = true :=
      fun c listed => (Numeral.isDigit_eq c).trans (digits.all c listed)
    rw [List.forall_mem_append] at all
    have stops : ∀ c ∈ ('.' :: (fraction ++ power)).head?, Numeral.isDigit c = false := by
      intro c ahead
      obtain rfl := Option.some.inj ahead
      decide
    obtain ⟨taken, left⟩ := Numeral.span_digits all.1 stops
    obtain ⟨taken', left'⟩ := Numeral.span_digits all.2 fun c ahead => (exponent.stops c ahead).1
    rw [readDecimal_point left, taken, taken', left', ofParts_eq_some_iff, Numeral.valueFrom_eq,
      digits.value]
    exact ⟨digits.nonempty, n, exponent, rfl⟩

theorem readDecimal_eq_some_iff : readDecimal text = some p ↔
    ∃ d, DecimalText text d ∧ nearestDecimal d.coefficient d.exponent = p := by
  constructor
  · exact decimalText_of_readDecimal
  · rintro ⟨d, decimal, rfl⟩
    exact readDecimal_of_decimalText decimal

end Decimal

section Size

variable {text : List Char} {d : Decimal} {p : Nat} {negative : Bool} {v : Binary64}

private theorem toLower_of_isDigit {c : Char} (digit : Numeral.isDigit c = true) :
    c.toLower = c := by
  rw [Numeral.isDigit_eq] at digit
  simp only [Char.isDigit, Bool.and_eq_true, decide_eq_true_eq] at digit
  unfold Char.toLower
  rw [dif_neg]
  intro upper
  have first := UInt32.le_trans upper.1 digit.2
  exact absurd first (by decide)

theorem DecimalText.starts (decimal : DecimalText text d) :
    ∃ c rest, text = c :: rest ∧ (Numeral.isDigit c = true ∨ c = '.') := by
  have first {c : Char} {rest : List Char} {n : Nat} (digits : Numeral.DigitsText (c :: rest) n) :
      Numeral.isDigit c = true := Numeral.isDigit_eq c ▸ digits.head
  cases decimal with
  | @plain whole power _ _ digits =>
    cases whole with
    | nil => exact absurd rfl digits.nonempty
    | cons c rest => exact ⟨c, rest ++ power, rfl, .inl (first digits)⟩
  | @point whole _ _ _ _ digits =>
    cases whole with
    | nil => exact ⟨'.', _, rfl, .inr rfl⟩
    | cons c rest => exact ⟨c, _, rfl, .inl (first digits)⟩

/-- As a decimal starts with a digit or a point, it is no word. -/
theorem DecimalText.not_word (decimal : DecimalText text d) {first : Char} {others : List Char}
    (letter : Numeral.isDigit first = false) (letter' : first ≠ '.') :
    text.map Char.toLower ≠ first :: others := by
  obtain ⟨c, rest, rfl, start⟩ := decimal.starts
  have lower : c.toLower = c := by
    obtain digit | rfl := start
    · exact toLower_of_isDigit digit
    · decide
  intro same
  rw [List.map_cons, lower] at same
  obtain rfl := (List.cons.inj same).1
  obtain digit | point := start
  · rw [letter] at digit
    cases digit
  · exact letter' point

/-- What an unsigned literal is read as. -/
theorem readUnsigned_eq_some_iff : readUnsigned text = some p ↔
    ((text.map Char.toLower = ['i', 'n', 'f'] ∨
        text.map Char.toLower = ['i', 'n', 'f', 'i', 'n', 'i', 't', 'y']) ∧ infinityPattern = p) ∨
      (text.map Char.toLower = ['n', 'a', 'n'] ∧ infinityPattern + 2 ^ 51 = p) ∨
      ∃ d, DecimalText text d ∧ nearestDecimal d.coefficient d.exponent = p := by
  have letters {word : String} (same : String.ofList (text.map Char.toLower) = word) :
      text.map Char.toLower = word.toList := by
    rw [← same, String.toList_ofList]
  constructor
  · intro read
    unfold readUnsigned at read
    split at read
    · next same => exact .inl ⟨.inl (letters same), Option.some.inj read⟩
    · next same => exact .inl ⟨.inr (letters same), Option.some.inj read⟩
    · next same => exact .inr (.inl ⟨letters same, Option.some.inj read⟩)
    · exact .inr (.inr (readDecimal_eq_some_iff.mp read))
  · rintro (⟨word | word, rfl⟩ | ⟨word, rfl⟩ | ⟨d, decimal, read⟩)
    · rw [readUnsigned, word]
      rfl
    · rw [readUnsigned, word]
      rfl
    · rw [readUnsigned, word]
      rfl
    · unfold readUnsigned
      split
      · next same => exact absurd (letters same) (decimal.not_word (by decide) (by decide))
      · next same => exact absurd (letters same) (decimal.not_word (by decide) (by decide))
      · next same => exact absurd (letters same) (decimal.not_word (by decide) (by decide))
      · exact readDecimal_eq_some_iff.mpr ⟨d, decimal, read⟩

theorem sizeText_iff : SizeText negative text v ↔
    ∃ p, readUnsigned text = some p ∧ ofPattern negative p = v := by
  simp only [readUnsigned_eq_some_iff]
  constructor
  · intro size
    cases size with
    | infinity word => exact ⟨_, .inl ⟨word, rfl⟩, rfl⟩
    | nan word => exact ⟨_, .inr (.inl ⟨word, rfl⟩), rfl⟩
    | decimal decimal rounded =>
      exact ⟨_, .inr (.inr ⟨_, decimal, rfl⟩), ((rounded_iff _).mp rounded).symm⟩
  · rintro ⟨p, ⟨word, rfl⟩ | ⟨word, rfl⟩ | ⟨d, decimal, rfl⟩, rfl⟩
    · exact .infinity word
    · exact .nan word
    · exact .decimal decimal ((rounded_iff d).mpr rfl)

/-- An unsigned literal has a first character, which is no sign. -/
theorem SizeText.starts (size : SizeText negative text v) :
    ∃ c rest, text = c :: rest ∧ c ≠ '+' ∧ c ≠ '-' := by
  have word {first : Char} {others : List Char} (same : text.map Char.toLower = first :: others)
      (plus : '+'.toLower ≠ first) (minus : '-'.toLower ≠ first) :
      ∃ c rest, text = c :: rest ∧ c ≠ '+' ∧ c ≠ '-' := by
    obtain ⟨c, rest, split, lower, -⟩ := List.map_eq_cons_iff.mp same
    refine ⟨c, rest, split, ?_, ?_⟩
    · rintro rfl
      exact plus lower
    · rintro rfl
      exact minus lower
  cases size with
  | infinity same => exact same.elim (word · (by decide) (by decide)) (word · (by decide) (by decide))
  | nan same => exact word same (by decide) (by decide)
  | decimal decimal =>
    obtain ⟨c, rest, split, start⟩ := decimal.starts
    refine ⟨c, rest, split, ?_, ?_⟩
    · rintro rfl
      exact absurd start (by decide)
    · rintro rfl
      exact absurd start (by decide)

/-- A literal is read as what it stands for, and what is no literal is not read. -/
theorem readLiteral_eq_ok_iff : readLiteral text = .ok v ↔ LiteralText text v := by
  constructor
  · intro ok
    unfold readLiteral at ok
    dsimp only at ok
    split at ok
    · cases ok
    · split at ok
      · next read =>
        cases ok
        exact .minus (sizeText_iff.mpr ⟨_, read, rfl⟩)
      · cases ok
    · split at ok
      · next read =>
        cases ok
        exact .plus (sizeText_iff.mpr ⟨_, read, rfl⟩)
      · cases ok
    · split at ok
      · next read =>
        cases ok
        exact .unsigned (sizeText_iff.mpr ⟨_, read, rfl⟩)
      · cases ok
  · intro literal
    cases literal with
    | unsigned size =>
      obtain ⟨c, rest, rfl, plus, minus⟩ := size.starts
      obtain ⟨p, read, rfl⟩ := sizeText_iff.mp size
      unfold readLiteral
      dsimp only
      split
      · contradiction
      · next same => exact absurd (List.cons.inj same).1 minus
      · next same => exact absurd (List.cons.inj same).1 plus
      · rw [read]
    | plus size =>
      obtain ⟨p, read, rfl⟩ := sizeText_iff.mp size
      simp only [readLiteral, read]
    | minus size =>
      obtain ⟨p, read, rfl⟩ := sizeText_iff.mp size
      simp only [readLiteral, read]

end Size

end SensorRelay.Binary64
