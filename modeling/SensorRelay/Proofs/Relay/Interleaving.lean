import Mathlib.Tactic.Common

/-! # Interleavings

Several sequences are interleaved into one by taking the first element of any of them, over and
over, until all are used up. A sequence whose elements carry labels is an interleaving of its
shares, one for each label.
-/

namespace SensorRelay

variable {α : Type}

/-- A sequence takes the elements of several ones, each in its own order. -/
inductive Interleaves : List (List α) → List α → Prop
  | done {shares : List (List α)} (empty : ∀ share ∈ shares, share = []) : Interleaves shares []
  | take {shares : List (List α)} {label : Nat} {item : α} {rest whole : List α}
      (next : shares[label]? = some (item :: rest))
      (later : Interleaves (shares.set label rest) whole) : Interleaves shares (item :: whole)

/-- The elements with a label, in order. -/
def share (label : Nat) (labelled : List (Nat × α)) : List α :=
  labelled.filterMap fun entry => if entry.1 = label then some entry.2 else none

@[simp] theorem share_nil (label : Nat) : share label ([] : List (Nat × α)) = [] := rfl

@[simp] theorem share_append (label : Nat) (earlier later : List (Nat × α)) :
    share label (earlier ++ later) = share label earlier ++ share label later :=
  List.filterMap_append

@[simp] theorem share_cons_self (label : Nat) (item : α) (rest : List (Nat × α)) :
    share label ((label, item) :: rest) = item :: share label rest :=
  List.filterMap_cons_some (by simp)

theorem share_cons_of_ne {label place : Nat} (apart : place ≠ label) (item : α)
    (rest : List (Nat × α)) : share label ((place, item) :: rest) = share label rest :=
  List.filterMap_cons_none (by simp [apart])

/-- All shares of a labelled sequence. -/
def shares (count : Nat) (labelled : List (Nat × α)) : List (List α) :=
  (List.range count).map fun label => share label labelled

@[simp] theorem length_shares (count : Nat) (labelled : List (Nat × α)) :
    (shares count labelled).length = count := by simp [shares]

theorem getElem?_shares {count label : Nat} (bound : label < count) (labelled : List (Nat × α)) :
    (shares count labelled)[label]? = some (share label labelled) := by
  simp [shares, bound]

theorem interleaves_shares {count : Nat} {labelled : List (Nat × α)}
    (bounded : ∀ entry ∈ labelled, entry.1 < count) :
    Interleaves (shares count labelled) (labelled.map Prod.snd) := by
  induction labelled with
  | nil => exact .done (by simp [shares])
  | cons entry rest ih =>
    obtain ⟨label, item⟩ := entry
    rw [List.forall_mem_cons] at bounded
    have next := getElem?_shares bounded.1 ((label, item) :: rest)
    rw [share_cons_self] at next
    refine .take next ?_
    -- Only the share of the label has got longer.
    have others : (shares count ((label, item) :: rest)).set label (share label rest) =
        shares count rest := by
      refine List.ext_getElem? fun place => ?_
      rw [List.getElem?_set, length_shares]
      obtain rfl | apart := eq_or_ne label place
      · rw [if_pos rfl, if_pos bounded.1, getElem?_shares bounded.1]
      · rw [if_neg apart]
        obtain inside | outside := Nat.lt_or_ge place count
        · rw [getElem?_shares inside, getElem?_shares inside, share_cons_of_ne apart]
        · rw [List.getElem?_eq_none (by simpa), List.getElem?_eq_none (by simpa)]
    rw [others]
    exact ih bounded.2

/-- An interleaving has all elements of its shares, and no others. -/
theorem Interleaves.perm {shares : List (List α)} {whole : List α}
    (interleaves : Interleaves shares whole) : whole.Perm shares.flatten := by
  induction interleaves with
  | done empty => rw [List.flatten_eq_nil_iff.mpr empty]
  | @take shares label item rest whole next _ ih =>
    obtain ⟨bound, here⟩ := List.getElem?_eq_some_iff.mp next
    have split := List.set_eq_take_append_cons_drop (l := shares) (i := label) (a := rest)
    rw [if_pos bound] at split
    have before : shares = shares.take label ++ (item :: rest) :: shares.drop (label + 1) := by
      rw [← here, ← List.drop_eq_getElem_cons bound, List.take_append_drop]
    rw [split] at ih
    rw [before]
    simp only [List.flatten_append, List.flatten_cons] at ih ⊢
    exact (ih.cons item).trans List.perm_middle.symm

/-- Each share stands in the whole in its own order. -/
theorem Interleaves.sublist {shares : List (List α)} {whole : List α}
    (interleaves : Interleaves shares whole) {mine : List α} (listed : mine ∈ shares) :
    mine.Sublist whole := by
  induction interleaves generalizing mine with
  | done empty =>
    obtain rfl := empty mine listed
    exact .slnil
  | @take shares label item rest whole next _ ih =>
    obtain ⟨place, here⟩ := List.mem_iff_getElem?.mp listed
    have bound := (List.getElem?_eq_some_iff.mp next).1
    obtain rfl | apart := eq_or_ne label place
    · obtain rfl : mine = item :: rest := Option.some.inj (here.symm.trans next)
      exact (ih (List.mem_of_getElem? (List.getElem?_set_self bound))).cons_cons item
    · rw [← List.getElem?_set_ne apart] at here
      exact (ih (List.mem_of_getElem? here)).cons item

private theorem Interleaves.eq_of_singleton {mine whole : List α}
    (interleaves : Interleaves [mine] whole) : whole = mine := by
  induction whole generalizing mine with
  | nil =>
    cases interleaves with
    | done empty => exact (empty mine (by simp)).symm
  | cons item whole ih =>
    cases interleaves with
    | @take _ label _ rest _ next later =>
      obtain ⟨bound, here⟩ := List.getElem?_eq_some_iff.mp next
      obtain rfl : label = 0 := by simpa using bound
      obtain rfl : mine = item :: rest := by simpa using here
      rw [ih later]

/-- One sequence alone can only be interleaved in one way. -/
theorem Interleaves.eq_of_length {shares : List (List α)} {whole other : List α}
    (left : Interleaves shares whole) (right : Interleaves shares other)
    (alone : shares.length = 1) : whole = other := by
  obtain ⟨mine, rfl⟩ := List.length_eq_one_iff.mp alone
  rw [left.eq_of_singleton, right.eq_of_singleton]

end SensorRelay
