import SensorRelay.Text.Blank
import Mathlib.Data.List.TakeWhile

/-! # Taking texts apart

What is taken off the ends of a text is the longest run there, so what is left is told by how it
starts and ends (`trim_eq_iff`). What is put between separators is found between them again, as
long as it holds none itself (`pieces_append`).
-/

namespace SensorRelay.Text

section Ends

variable {p : Char → Bool} {text kept : List Char}

/-- A text without the characters at its end that satisfy `p`, of which none is left there. -/
structure EndStripped (p : Char → Bool) (text kept : List Char) : Prop where
  stripped : ∃ dropped, text = kept ++ dropped ∧ ∀ c ∈ dropped, p c = true
  last : ∀ c ∈ kept.getLast?, p c = false

/-- A text without the blanks around it. -/
structure Trimmed (text core : List Char) : Prop where
  between : ∃ before after, text = before ++ (core ++ after) ∧
    (∀ c ∈ before, isBlank c = true) ∧ ∀ c ∈ after, isBlank c = true
  first : ∀ c ∈ core.head?, isBlank c = false
  last : ∀ c ∈ core.getLast?, isBlank c = false

theorem dropWhile_eq_iff : text.dropWhile p = kept ↔
    (∃ dropped, text = dropped ++ kept ∧ ∀ c ∈ dropped, p c = true) ∧
      ∀ c ∈ kept.head?, p c = false := by
  constructor
  · rintro rfl
    refine ⟨⟨text.takeWhile p, List.takeWhile_append_dropWhile.symm, ?_⟩, ?_⟩
    · intro c listed
      exact List.mem_takeWhile_imp listed
    · intro c first
      have stop := List.head?_dropWhile_not p text
      rw [Option.mem_def.mp first] at stop
      exact stop
  · rintro ⟨⟨dropped, rfl, all⟩, first⟩
    rw [List.dropWhile_append_of_pos all]
    cases kept with
    | nil => rfl
    | cons c rest => exact List.dropWhile_cons_of_neg (by simp [first c rfl])

theorem dropEndWhile_eq_iff : dropEndWhile p text = kept ↔ EndStripped p text kept := by
  rw [dropEndWhile, List.reverse_eq_iff, dropWhile_eq_iff, List.head?_reverse]
  constructor
  · rintro ⟨⟨dropped, split, all⟩, last⟩
    refine ⟨⟨dropped.reverse, ?_, ?_⟩, last⟩
    · rw [← List.reverse_reverse text, split, List.reverse_append, List.reverse_reverse]
    · intro c listed
      exact all c (List.mem_reverse.mp listed)
  · rintro ⟨⟨dropped, rfl, all⟩, last⟩
    refine ⟨⟨dropped.reverse, List.reverse_append, ?_⟩, last⟩
    intro c listed
    exact all c (List.mem_reverse.mp listed)

theorem trim_eq_iff {core : List Char} : trim text = core ↔ Trimmed text core := by
  rw [trim, dropEndWhile_eq_iff]
  constructor
  · rintro ⟨⟨after, rest, blankAfter⟩, last⟩
    obtain ⟨⟨before, split, blankBefore⟩, first⟩ := dropWhile_eq_iff.mp rest
    refine ⟨⟨before, after, split, blankBefore, blankAfter⟩, ?_, last⟩
    intro c ahead
    exact first c (by rw [List.head?_append, Option.mem_def.mp ahead]; rfl)
  · rintro ⟨⟨before, after, rfl, blankBefore, blankAfter⟩, first, last⟩
    rw [List.dropWhile_append_of_pos blankBefore]
    cases core with
    | nil =>
      -- All is blank, so nothing is left for the end.
      rw [List.nil_append, List.dropWhile_eq_nil_iff.mpr blankAfter]
      exact ⟨⟨[], rfl, nofun⟩, last⟩
    | cons c rest =>
      rw [List.cons_append, List.dropWhile_cons_of_neg (by simp [first c rfl])]
      exact ⟨⟨after, rfl, blankAfter⟩, last⟩

theorem dropEndWhile_eq_self (kept : ∀ c ∈ text, p c = false) : dropEndWhile p text = text :=
  dropEndWhile_eq_iff.mpr
    ⟨⟨[], (List.append_nil text).symm, nofun⟩, fun c last => kept c (List.mem_of_mem_getLast? last)⟩

theorem trim_eq_self (visible : ∀ c ∈ text, isBlank c = false) : trim text = text :=
  trim_eq_iff.mpr
    ⟨⟨[], [], (List.append_nil text).symm, nofun, nofun⟩,
      fun c first => visible c (List.mem_of_mem_head? first),
      fun c last => visible c (List.mem_of_mem_getLast? last)⟩

end Ends

section Pieces

variable {separator : Char} {piece : List Char}

/-- The pieces between the separators in a text. -/
structure Divided (separator : Char) (text : List Char) (parts : List (List Char)) : Prop where
  nonempty : parts ≠ []
  whole : ∀ part ∈ parts, separator ∉ part
  joined : [separator].intercalate parts = text

theorem pieces_of_notMem (whole : separator ∉ piece) : pieces separator piece = [piece] := by
  induction piece with
  | nil => rfl
  | cons c rest ih =>
    rw [List.mem_cons, not_or] at whole
    rw [pieces, if_neg (Ne.symm whole.1), ih whole.2]

theorem pieces_append (whole : separator ∉ piece) (rest : List Char) :
    pieces separator (piece ++ separator :: rest) = piece :: pieces separator rest := by
  induction piece with
  | nil => rw [List.nil_append, pieces, if_pos rfl]
  | cons c others ih =>
    rw [List.mem_cons, not_or] at whole
    rw [List.cons_append, pieces, if_neg (Ne.symm whole.1), ih whole.2]

/-- Between separators stand the pieces that end with one, and nothing after the last of them. -/
theorem pieces_flatMap {ended : List (List Char)} (whole : ∀ piece ∈ ended, separator ∉ piece) :
    pieces separator (ended.flatMap (· ++ [separator])) = ended ++ [[]] := by
  induction ended with
  | nil => rfl
  | cons piece others ih =>
    rw [List.forall_mem_cons] at whole
    rw [List.flatMap_cons, List.append_assoc, List.singleton_append, pieces_append whole.1,
      ih whole.2, List.cons_append]

theorem divided_pieces (separator : Char) (text : List Char) :
    Divided separator text (pieces separator text) := by
  induction text with
  | nil => exact ⟨by simp [pieces], by simp [pieces], rfl⟩
  | cons c rest ih =>
    obtain ⟨nonempty, whole, joined⟩ := ih
    obtain ⟨first, others, parts⟩ := List.exists_cons_of_ne_nil nonempty
    rw [parts] at whole joined
    rw [List.forall_mem_cons] at whole
    unfold pieces
    rw [parts]
    split
    · next same =>
      refine ⟨List.cons_ne_nil _ _, ?_, ?_⟩
      · simpa using whole
      · rw [List.intercalate_cons_cons, joined, same]
        rfl
    · next different =>
      refine ⟨List.cons_ne_nil _ _, ?_, ?_⟩
      · rw [List.forall_mem_cons, List.mem_cons, not_or]
        exact ⟨⟨Ne.symm different, whole.1⟩, whole.2⟩
      · rw [← joined]
        cases others with
        | nil => rfl
        | cons next others => rfl

end Pieces

end SensorRelay.Text
