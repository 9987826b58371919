import SensorRelay.Except
import SensorRelay.Files.Handle
import Mathlib.Tactic.Common

/-! # What stands where after a write

Putting something at a place shows there and nowhere else. A file that is written at its end grows
by what is written. Where a path leads depends on the directories alone, so it leads to the same
place after writes (`System.SameDirectories.claim_place`).
-/

namespace SensorRelay.Files

namespace System

variable {fs : System} {place other : Place} {node : Node}

private theorem lookup_map (nodes : List (Place × Node)) (place other : Place) (node : Node) :
    (nodes.map fun entry => if entry.1 == place then (place, node) else entry).lookup other =
      if other = place then (nodes.lookup place).map fun _ => node else nodes.lookup other := by
  induction nodes with
  | nil => simp
  | cons entry rest ih =>
    obtain ⟨name, old⟩ := entry
    rw [List.map_cons]
    by_cases here : name = place
    · subst here
      by_cases asked : other = name
      · subst asked
        simp
      · have differs : (other == name) = false := by simp [asked]
        simp only [beq_self_eq_true, if_true, List.lookup_cons, differs, ih, asked, if_false]
    · have elsewhere : (name == place) = false := by simp [here]
      by_cases asked : other = name
      · subst asked
        simp [elsewhere, here]
      · have differs : (other == name) = false := by simp [asked]
        have apart : (place == name) = false := by simp [Ne.symm here]
        simp only [elsewhere, Bool.false_eq_true, if_false, List.lookup_cons, differs, apart, ih]

private theorem lookup_put (fs : System) (place other : Place) (node : Node) :
    (fs.put place node).nodes.lookup other =
      if other = place then some node else fs.nodes.lookup other := by
  unfold put
  split
  · next present =>
    obtain ⟨entry, listed, same⟩ := List.any_eq_true.mp present
    have found : (fs.nodes.lookup place).isSome :=
      List.lookup_isSome_iff.mpr ⟨entry, listed, beq_iff_eq.mpr (beq_iff_eq.mp same).symm⟩
    obtain ⟨old, found⟩ := Option.isSome_iff_exists.mp found
    rw [lookup_map, found]
    rfl
  · next absent =>
    have missing : fs.nodes.lookup place = none := by
      rw [List.lookup_eq_none_iff]
      intro entry listed
      refine bne_iff_ne.mpr fun same => ?_
      exact absent (List.any_eq_true.mpr ⟨entry, listed, beq_iff_eq.mpr same.symm⟩)
    rw [List.lookup_append]
    by_cases asked : other = place
    · subst asked
      simp [missing]
    · simp [List.lookup_cons, beq_false_of_ne asked, asked]

theorem find?_put_self (named : place ≠ []) (node : Node) :
    (fs.put place node).find? place = some node := by
  rw [find?, if_neg (by simpa using named), lookup_put, if_pos rfl]

theorem find?_put_of_ne (apart : other ≠ place) (node : Node) :
    (fs.put place node).find? other = fs.find? other := by
  rw [find?, find?, lookup_put, if_neg apart]

/-- Writing at the end of a file appends. -/
theorem overwrite_end {content : List UInt8} (found : fs.find? place = some (.file content))
    (bytes : List UInt8) :
    fs.overwrite place content.length bytes = fs.put place (.file (content ++ bytes)) := by
  have nothing : content.drop (content.length + bytes.length) = [] :=
    List.drop_eq_nil_of_le (Nat.le_add_right _ _)
  simp [overwrite, found, nothing]

theorem ne_nil_of_find? {content : List UInt8} (found : fs.find? place = some (.file content)) :
    place ≠ [] := by
  rintro rfl
  cases found

/-- What a path leads to stands where it leads. -/
theorem find?_of_locate {path : String} (located : fs.locate path = .ok (place, node)) :
    fs.find? place = some node := by
  obtain ⟨_, _, located⟩ := Except.bind_eq_ok_iff.mp located
  obtain ⟨_, _, located⟩ := Except.bind_eq_ok_iff.mp located
  split at located
  · next found =>
    cases located
    exact found
  · cases located

/-- A file can be written where no directory stands. -/
theorem find?_of_claim {path : String} {content : List UInt8}
    (claimed : fs.claim path = .ok (place, content)) : fs.find? place ≠ some .directory := by
  obtain ⟨_, _, claimed⟩ := Except.bind_eq_ok_iff.mp claimed
  obtain ⟨_, _, claimed⟩ := Except.bind_eq_ok_iff.mp claimed
  obtain ⟨_, _, claimed⟩ := Except.bind_eq_ok_iff.mp claimed
  split at claimed
  · cases claimed
  · obtain ⟨_, holds, same⟩ := Except.bind_eq_ok_iff.mp claimed
    cases same
    intro directory
    rw [claimAt, directory] at holds
    cases holds

/-- The root is a directory. -/
theorem ne_nil_of_ne_directory (elsewhere : fs.find? place ≠ some .directory) : place ≠ [] := by
  rintro rfl
  exact elsewhere rfl

/-- Two file systems with the same directories. -/
structure SameDirectories (fs other : System) : Prop where
  here : other.here = fs.here
  directories : ∀ place, other.find? place = some .directory ↔ fs.find? place = some .directory

namespace SameDirectories

variable {other : System}

theorem refl (fs : System) : SameDirectories fs fs := ⟨rfl, fun _ => Iff.rfl⟩

theorem put (elsewhere : fs.find? place ≠ some .directory) (content : List UInt8) :
    SameDirectories fs (fs.put place (.file content)) := by
  refine ⟨by unfold System.put; split <;> rfl, fun asked => ?_⟩
  obtain rfl | apart := eq_or_ne asked place
  · rw [find?_put_self (ne_nil_of_ne_directory elsewhere)]
    simp [elsewhere]
  · rw [find?_put_of_ne apart]

private theorem toOption_step (same : SameDirectories fs other) (place : Place)
    (piece : List Char) : (other.step place piece).toOption = (fs.step place piece).toOption := by
  have refused {fs : System} (elsewhere : fs.find? place ≠ some .directory) :
      (fs.step place piece).toOption = none := by
    unfold step
    split
    · rfl
    · rfl
    · next found => exact absurd found elsewhere
  by_cases directory : fs.find? place = some .directory
  · simp only [step, directory, (same.directories place).mpr directory]
  · rw [refused directory, refused (mt (same.directories place).mp directory)]

private theorem toOption_bind {ε α β : Type} (first : Except ε α) (next : α → Except ε β) :
    (first >>= next).toOption = first.toOption.bind fun a => (next a).toOption := by
  cases first <;> rfl

private theorem toOption_follow (same : SameDirectories fs other) (place : Place)
    (pieces : List (List Char)) :
    (other.follow place pieces).toOption = (fs.follow place pieces).toOption := by
  induction pieces generalizing place with
  | nil => rfl
  | cons piece rest ih =>
    have next (fs : System) : (fs.follow place (piece :: rest)).toOption =
        (fs.step place piece).toOption.bind fun place => (fs.follow place rest).toOption :=
      toOption_bind _ _
    rw [next, next, same.toOption_step]
    simp only [ih]

private theorem toOption_claimAt (fs : System) (place : Place) :
    (fs.claimAt place >>= fun content => pure (place, content)).toOption.map Prod.fst =
      if fs.find? place = some .directory then none else some place := by
  unfold claimAt
  split
  · next found => rw [if_pos found]; rfl
  · next found => rw [if_neg (by simp [found])]; rfl
  · next found => rw [if_neg (by simp [found])]; rfl

/-- A path to a file that is to be written leads to the same place. -/
theorem claim_place (same : SameDirectories fs other) (path : String) :
    (other.claim path).toOption.map Prod.fst = (fs.claim path).toOption.map Prod.fst := by
  have enter : other.enter path = fs.enter path := by
    simp only [System.enter, System.start, same.here]
  simp only [claim, enter, toOption_bind, same.toOption_follow, same.toOption_step,
    Option.map_bind, Function.comp_def]
  refine Option.bind_congr fun _ _ => Option.bind_congr fun _ _ =>
    Option.bind_congr fun place _ => ?_
  split
  · rfl
  · rw [toOption_claimAt, toOption_claimAt]
    exact if_congr (same.directories place) rfl rfl

end SameDirectories

end System

namespace Handle

variable {handle : Handle} {fs : System}

@[simp] theorem place_write (bytes : List UInt8) :
    (handle.write fs bytes).1.place = handle.place := by
  unfold Handle.write
  split <;> rfl

/-- Writing changes no other file. -/
theorem find?_write_of_ne {other : Place} (apart : other ≠ handle.place) (bytes : List UInt8) :
    (handle.write fs bytes).2.find? other = fs.find? other := by
  unfold Handle.write
  split
  · rfl
  · exact System.find?_put_of_ne apart _

/-- Where writing with a handle goes on: at the end of a file. -/
structure AtEnd (handle : Handle) (fs : System) (content : List UInt8) : Prop where
  found : fs.find? handle.place = some (.file content)
  offset : handle.appends = false → handle.offset = content.length

variable {content : List UInt8}

/-- A file that is opened to be written is written at its end. -/
theorem AtEnd.opened {place : Place} (elsewhere : fs.find? place ≠ some .directory)
    (content : List UInt8) (appends : Bool) :
    AtEnd { place, appends } (fs.put place (.file (if appends then content else [])))
      (if appends then content else []) := by
  refine ⟨System.find?_put_self (System.ne_nil_of_ne_directory elsewhere) _, fun truncates => ?_⟩
  rw [if_neg (by simpa using truncates)]
  rfl

/-- Only what stands at the place of a handle matters to it. -/
theorem AtEnd.of_find? (atEnd : handle.AtEnd fs content) {other : System}
    (same : other.find? handle.place = fs.find? handle.place) : handle.AtEnd other content :=
  ⟨same.trans atEnd.found, atEnd.offset⟩

private theorem AtEnd.write_eq {bytes : List UInt8} (atEnd : handle.AtEnd fs content)
    (something : ¬bytes.isEmpty = true) :
    handle.write fs bytes =
      ({ handle with offset := content.length + bytes.length },
        fs.overwrite handle.place content.length bytes) := by
  rw [Handle.write, if_neg something, atEnd.found]
  cases appends : handle.appends with
  | true => rfl
  | false =>
    have offset := atEnd.offset appends
    simp only [offset]

/-- At its end, a handle appends what is written. -/
theorem AtEnd.write (atEnd : handle.AtEnd fs content) (bytes : List UInt8) :
    (handle.write fs bytes).1.AtEnd (handle.write fs bytes).2 (content ++ bytes) := by
  by_cases nothing : bytes.isEmpty
  · obtain rfl : bytes = [] := by simpa using nothing
    rwa [List.append_nil]
  · rw [atEnd.write_eq nothing, System.overwrite_end atEnd.found]
    have named := System.ne_nil_of_find? atEnd.found
    exact ⟨System.find?_put_self named _, fun _ => List.length_append.symm⟩

/-- No directory comes or goes. -/
theorem AtEnd.sameDirectories_write (atEnd : handle.AtEnd fs content) (bytes : List UInt8) :
    System.SameDirectories fs (handle.write fs bytes).2 := by
  by_cases nothing : bytes.isEmpty
  · rw [Handle.write, if_pos nothing]
    exact .refl fs
  · rw [atEnd.write_eq nothing, System.overwrite_end atEnd.found]
    exact .put (by simp [atEnd.found]) _

end Handle

end SensorRelay.Files
