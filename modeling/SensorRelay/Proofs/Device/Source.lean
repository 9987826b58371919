import SensorRelay.Device.Source
import Mathlib.Tactic.Common

/-! # What a source delivers

A source ends with the first read that gives nothing or fails. Everything before that are its bytes
(`delivered`); interruptions do not count. One read takes some of the first of these bytes, or shows
how the source ends (`Gives.read`), and this does not depend on how much a read gives at most.
-/

namespace SensorRelay.Device

/-- The bytes of all pieces before the end. An empty piece is a read that gives nothing. -/
def delivered : List Delivery → List UInt8
  | [] => []
  | .bytes [] :: _ => []
  | .bytes (byte :: more) :: rest => byte :: more ++ delivered rest
  | .interruption :: rest => delivered rest
  | .failure _ :: _ => []

/-- The failure that deliveries end with, unless they end with a read that gives nothing. -/
def failure? : List Delivery → Option String
  | [] => none
  | .bytes [] :: _ => none
  | .bytes (_ :: _) :: rest => failure? rest
  | .interruption :: rest => failure? rest
  | .failure text :: _ => some text

/-- Pieces that are not empty are delivered one after the other. -/
private theorem delivered_pieces {pieces : List (List UInt8)} (nonempty : [] ∉ pieces) :
    delivered (pieces.map .bytes) = pieces.flatten ∧ failure? (pieces.map .bytes) = none := by
  induction pieces with
  | nil => exact ⟨rfl, rfl⟩
  | cons piece others ih =>
    rw [List.mem_cons, not_or] at nonempty
    obtain ⟨byte, more, rfl⟩ := List.exists_cons_of_ne_nil (Ne.symm nonempty.1)
    obtain ⟨content, failure⟩ := ih nonempty.2
    exact ⟨congrArg (byte :: more ++ ·) content, failure⟩

private theorem exists_pieces {deliveries : List Delivery}
    (all : ∀ delivery ∈ deliveries, ∃ byte more, delivery = .bytes (byte :: more)) :
    ∃ pieces : List (List UInt8), deliveries = pieces.map .bytes ∧ [] ∉ pieces := by
  induction deliveries with
  | nil => exact ⟨[], rfl, by simp⟩
  | cons delivery rest ih =>
    rw [List.forall_mem_cons] at all
    obtain ⟨⟨byte, more, rfl⟩, others⟩ := all
    obtain ⟨pieces, rfl, nonempty⟩ := ih others
    exact ⟨(byte :: more) :: pieces, rfl, by simpa using nonempty⟩

namespace Source

/-- A source gives some bytes and then ends, with a failure or without. Each of its reads can give
something. -/
structure Gives (source : Source) (content : List UInt8) (failure : Option String) : Prop where
  moving : source.maxRead ≠ some 0
  content : delivered source.deliveries = content
  failure : failure? source.deliveries = failure

variable {source : Source} {content : List UInt8} {failure : Option String}

theorem gives_ofBytes (content : List UInt8) : (ofBytes content).Gives content none := by
  cases content with
  | nil => exact ⟨by simp [ofBytes], rfl, rfl⟩
  | cons byte more => exact ⟨by simp [ofBytes], List.append_nil _, rfl⟩

/-- What a read leaves of a source that gives some bytes and then ends. -/
def Leaves (content : List UInt8) (failure : Option String) (wanted : Nat) :
    ReadOutcome → Source → Prop
  | .interrupted, rest => rest.Gives content failure
  | .failed text, _ => content = [] ∧ failure = some text
  | .bytes [], _ => content = [] ∧ failure = none
  | .bytes (byte :: more), rest => (byte :: more).length ≤ wanted ∧
      ∃ later, content = byte :: more ++ later ∧ rest.Gives later failure

/-- A read takes some of the first bytes, is interrupted, or shows how the source ends. -/
theorem Gives.read (gives : source.Gives content failure) (wanted : Nat) (asks : 0 < wanted) :
    Leaves content failure wanted (source.read wanted).1 (source.read wanted).2 := by
  obtain ⟨deliveries, maxRead⟩ := source
  obtain ⟨moving, rfl, rfl⟩ := gives
  dsimp only at moving
  cases deliveries with
  | nil => exact ⟨rfl, rfl⟩
  | cons delivery rest =>
    cases delivery with
    | interruption => exact ⟨moving, rfl, rfl⟩
    | failure text => exact ⟨rfl, rfl⟩
    | bytes piece =>
      cases piece with
      | nil =>
        simp only [Source.read, List.take_nil]
        exact ⟨rfl, rfl⟩
      | cons byte more =>
        have amount : ∃ amount, min wanted (maxRead.getD wanted) = amount + 1 := by
          refine Nat.exists_eq_add_one.mpr ?_
          cases maxRead with
          | none => simpa using asks
          | some most =>
            have : most ≠ 0 := fun zero => moving (congrArg some zero)
            simp only [Option.getD_some]
            omega
        obtain ⟨amount, same⟩ := amount
        have few : amount + 1 ≤ wanted := same ▸ Nat.min_le_left _ _
        simp only [Source.read, same, List.take_succ_cons, List.drop_succ_cons]
        constructor
        · rw [List.length_cons, List.length_take]
          omega
        · refine ⟨more.drop amount ++ delivered rest, ?_, moving, ?_, ?_⟩
          · rw [delivered, List.cons_append, List.cons_append, ← List.append_assoc,
              List.take_append_drop]
          -- A piece that is not used up stays, and it is not empty.
          · cases left : more.drop amount <;> simp [delivered]
          · cases left : more.drop amount <;> simp [failure?]

/-- A source that gives some bytes, in pieces, and nothing else. -/
structure Holds (source : Source) (content : List UInt8) : Prop where
  unlimited : source.maxRead = none
  pieces : ∃ pieces : List (List UInt8), source.deliveries = pieces.map .bytes ∧
    [] ∉ pieces ∧ pieces.flatten = content

theorem holds_empty : Holds ⟨[], none⟩ [] := ⟨rfl, [], rfl, by simp, rfl⟩

/-- One more piece comes after the others. -/
theorem Holds.deliver (holds : source.Holds content) {piece : List UInt8} (filled : piece ≠ []) :
    Holds { source with deliveries := source.deliveries ++ [.bytes piece] } (content ++ piece) := by
  obtain ⟨unlimited, pieces, same, nonempty, rfl⟩ := holds
  refine ⟨unlimited, pieces ++ [piece], by simp [same], ?_, by simp⟩
  simpa [nonempty] using filled.symm

/-- A source that has nothing but pieces in store, and gives each of them in one read if asked. -/
structure OnlyPieces (source : Source) : Prop where
  unlimited : source.maxRead = none
  pieces : ∀ delivery ∈ source.deliveries, ∃ byte more, delivery = .bytes (byte :: more)

theorem OnlyPieces.read (onlyPieces : source.OnlyPieces) (wanted : Nat) :
    (source.read wanted).2.OnlyPieces := by
  obtain ⟨deliveries, maxRead⟩ := source
  obtain ⟨rfl, pieces⟩ := onlyPieces
  cases deliveries with
  | nil => exact ⟨rfl, pieces⟩
  | cons delivery rest =>
    rw [List.forall_mem_cons] at pieces
    obtain ⟨⟨byte, more, rfl⟩, others⟩ := pieces
    refine ⟨rfl, ?_⟩
    simp only [Source.read, Option.getD_none, Nat.min_self]
    cases left : (byte :: more).drop wanted with
    | nil => exact others
    | cons first later => exact List.forall_mem_cons.mpr ⟨⟨first, later, rfl⟩, others⟩

/-- To hold some bytes is to have only pieces, and to give these bytes. -/
theorem holds_iff : source.Holds content ↔ source.OnlyPieces ∧ source.Gives content none := by
  obtain ⟨deliveries, maxRead⟩ := source
  constructor
  · rintro ⟨rfl, pieces, rfl, nonempty, rfl⟩
    refine ⟨⟨rfl, ?_⟩, by simp, ?_, ?_⟩
    · intro delivery listed
      obtain ⟨piece, among, rfl⟩ := List.mem_map.mp listed
      obtain ⟨byte, more, rfl⟩ := List.exists_cons_of_ne_nil (ne_of_mem_of_not_mem among nonempty)
      exact ⟨byte, more, rfl⟩
    · exact (delivered_pieces nonempty).1
    · exact (delivered_pieces nonempty).2
  · rintro ⟨⟨rfl, pieces⟩, gives⟩
    obtain ⟨chunks, same, nonempty⟩ := exists_pieces pieces
    dsimp only at same
    subst same
    exact ⟨rfl, chunks, rfl, nonempty, (delivered_pieces nonempty).1.symm.trans gives.content⟩

end Source

end SensorRelay.Device
