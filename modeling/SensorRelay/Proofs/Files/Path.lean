import SensorRelay.Except
import SensorRelay.Files.System
import Mathlib.Tactic.Common

/-! # Paths that name one file

What a path means from a directory on is what is left of it when every dot and every separator too
many is dropped (`resolved`), and this is where it leads in a file system. Paths with the same
components have the same meaning. The converse fails in two ways only: one path starts with a dot
where the other does not, or it names the way from the root to the directory (`Respelled`).
-/

namespace SensorRelay.Files

/-- The components of a path that are steps into or out of a directory. -/
def steps (path : String) : List Component :=
  (Text.pieces '/' path.toList).filterMap Component.ofPiece?

/-- What a path means from a directory on, as components below the root. -/
def resolved (here : Place) (path : String) : List Component :=
  (if path.toList.head? = some '/' then [] else here.map .name) ++ steps path

/-- A path is another one with more at its start that means nothing in a directory: a dot, or the
way from the root. -/
inductive Respelled (here : Place) (path other : String) : Prop
  | dotted (start : components path = .current :: components other)
  | rooted (start : components path = .root :: (here.map .name ++ components other))
  | rootedForDot {rest : List Component}
      (start : components path = .root :: (here.map .name ++ rest))
      (dot : components other = .current :: rest)

section Components

variable {here : Place} {path other : String}

/-- Beyond its start a path has no root and no dot. -/
theorem mem_steps {component : Component} (listed : component ∈ steps path) :
    component ≠ .root ∧ component ≠ .current := by
  obtain ⟨piece, _, means⟩ := List.mem_filterMap.mp listed
  unfold Component.ofPiece? at means
  split at means
  · cases means
  split at means
  · cases means
    exact ⟨nofun, nofun⟩
  · cases means
    exact ⟨nofun, nofun⟩

/-- How a path starts: at the root, with a dot, or with neither. -/
inductive Starts (path : String) : Prop
  | root (absolute : path.toList.head? = some '/') (parts : components path = .root :: steps path)
  | dot (relative : path.toList.head? ≠ some '/') (parts : components path = .current :: steps path)
  | plain (relative : path.toList.head? ≠ some '/') (parts : components path = steps path)

theorem starts (path : String) : Starts path := by
  have parts : components path = leading (Text.pieces '/' path.toList) ++ steps path := rfl
  cases chars : path.toList with
  | nil =>
    refine .plain (by simp [chars]) ?_
    rw [parts, chars]
    rfl
  | cons c rest =>
    by_cases absolute : c = '/'
    · refine .root (by simp [chars, absolute]) ?_
      rw [parts, chars, Text.pieces, if_pos absolute]
      cases tail : Text.pieces '/' rest with
      | nil => exact absurd tail (Text.pieces_ne_nil '/' rest)
      | cons first others => rfl
    · have relative : path.toList.head? ≠ some '/' := by simp [chars, absolute]
      rw [chars, Text.pieces, if_neg absolute] at parts
      cases tail : Text.pieces '/' rest with
      | nil => exact absurd tail (Text.pieces_ne_nil '/' rest)
      | cons first others =>
        rw [tail] at parts
        unfold leading at parts
        split at parts
        · next same => cases same
        · exact .dot relative parts
        · exact .plain relative parts

theorem resolved_of_absolute (absolute : path.toList.head? = some '/') :
    resolved here path = steps path := by
  rw [resolved, if_pos absolute, List.nil_append]

theorem resolved_of_relative (relative : path.toList.head? ≠ some '/') :
    resolved here path = here.map .name ++ steps path := by
  rw [resolved, if_neg relative]

theorem of_root {rest : List Component} (root : components path = .root :: rest) :
    path.toList.head? = some '/' ∧ steps path = rest := by
  cases starts path with
  | root absolute parts => exact ⟨absolute, (List.cons.inj (parts.symm.trans root)).2⟩
  | dot _ parts => cases parts.symm.trans root
  | plain _ parts =>
    have listed : Component.root ∈ steps path := parts ▸ root ▸ List.mem_cons_self
    exact absurd rfl (mem_steps listed).1

theorem of_dot {rest : List Component} (dot : components path = .current :: rest) :
    path.toList.head? ≠ some '/' ∧ steps path = rest := by
  cases starts path with
  | root _ parts => cases parts.symm.trans dot
  | dot relative parts => exact ⟨relative, (List.cons.inj (parts.symm.trans dot)).2⟩
  | plain _ parts =>
    have listed : Component.current ∈ steps path := parts ▸ dot ▸ List.mem_cons_self
    exact absurd rfl (mem_steps listed).2

/-- Components that are part of the steps of a path stand for a path that starts with neither. -/
theorem of_plain (earlier : List Component)
    (plain : steps path = earlier ++ components other) :
    other.toList.head? ≠ some '/' ∧ components other = steps other := by
  have inside {component : Component} (listed : component ∈ components other) :=
    mem_steps (plain ▸ List.mem_append_right earlier listed)
  cases starts other with
  | root _ parts => exact absurd rfl (inside (parts ▸ List.mem_cons_self)).1
  | dot _ parts => exact absurd rfl (inside (parts ▸ List.mem_cons_self)).2
  | plain relative parts => exact ⟨relative, parts⟩

/-- A path that is respelled means the same. -/
theorem Respelled.resolved_eq (respelled : Respelled here path other) :
    resolved here path = resolved here other := by
  cases respelled with
  | dotted start =>
    obtain ⟨relative, rest⟩ := of_dot start
    obtain ⟨relativeToo, parts⟩ := of_plain [] rest
    rw [resolved_of_relative relative, resolved_of_relative relativeToo, rest, parts]
  | rooted start =>
    obtain ⟨absolute, rest⟩ := of_root start
    obtain ⟨relative, parts⟩ := of_plain _ rest
    rw [resolved_of_absolute absolute, resolved_of_relative relative, rest, parts]
  | rootedForDot start dot =>
    obtain ⟨absolute, below⟩ := of_root start
    obtain ⟨relative, rest⟩ := of_dot dot
    rw [resolved_of_absolute absolute, resolved_of_relative relative, below, rest]

theorem resolved_eq_of_samePath (same : samePath path other = true) :
    resolved here path = resolved here other := by
  have parts : components path = components other := beq_iff_eq.mp same
  cases starts other with
  | root absolute partsOther =>
    obtain ⟨absolutePath, rest⟩ := of_root (parts.trans partsOther)
    rw [resolved_of_absolute absolutePath, resolved_of_absolute absolute, rest]
  | dot relative partsOther =>
    obtain ⟨relativePath, rest⟩ := of_dot (parts.trans partsOther)
    rw [resolved_of_relative relativePath, resolved_of_relative relative, rest]
  | plain relative partsOther =>
    obtain ⟨relativePath, rest⟩ := of_plain [] (partsOther.symm.trans parts.symm)
    rw [resolved_of_relative relativePath, resolved_of_relative relative, ← rest, parts, partsOther]

/-- A path from the root that means the same as one from the directory is respelled. -/
private theorem respelled_of_absolute (absolute : path.toList.head? = some '/')
    (parts : components path = .root :: steps path) (relative : other.toList.head? ≠ some '/')
    (same : resolved here path = resolved here other) : Respelled here path other := by
  rw [resolved_of_absolute absolute, resolved_of_relative relative] at same
  rw [same] at parts
  cases starts other with
  | root absoluteToo => exact absurd absoluteToo relative
  | dot _ partsOther => exact .rootedForDot parts partsOther
  | plain _ partsOther => exact .rooted (partsOther ▸ parts)

/-- Paths mean the same exactly if they have the same components or one of them is respelled. -/
theorem resolved_eq_iff : resolved here path = resolved here other ↔
    samePath path other = true ∨ Respelled here path other ∨ Respelled here other path := by
  constructor
  · intro same
    have cancel (relative : path.toList.head? ≠ some '/')
        (relativeToo : other.toList.head? ≠ some '/') : steps path = steps other := by
      rw [resolved_of_relative relative, resolved_of_relative relativeToo] at same
      exact List.append_cancel_left same
    have alike (parts : components path = components other) : samePath path other = true :=
      beq_iff_eq.mpr parts
    cases starts path with
    | root absolute parts =>
      cases starts other with
      | root absoluteToo partsOther =>
        rw [resolved_of_absolute absolute, resolved_of_absolute absoluteToo] at same
        exact .inl (alike (by rw [parts, partsOther, same]))
      | dot relative => exact .inr (.inl (respelled_of_absolute absolute parts relative same))
      | plain relative => exact .inr (.inl (respelled_of_absolute absolute parts relative same))
    | dot relative parts =>
      cases starts other with
      | root absolute partsOther =>
        exact .inr (.inr (respelled_of_absolute absolute partsOther relative same.symm))
      | dot relativeToo partsOther =>
        exact .inl (alike (by rw [parts, partsOther, cancel relative relativeToo]))
      | plain relativeToo partsOther =>
        exact .inr (.inl (.dotted (by rw [parts, partsOther, cancel relative relativeToo])))
    | plain relative parts =>
      cases starts other with
      | root absolute partsOther =>
        exact .inr (.inr (respelled_of_absolute absolute partsOther relative same.symm))
      | dot relativeToo partsOther =>
        exact .inr (.inr (.dotted (by rw [parts, partsOther, cancel relative relativeToo])))
      | plain relativeToo partsOther =>
        exact .inl (alike (by rw [parts, partsOther, cancel relative relativeToo]))
  · rintro (same | respelled | respelled)
    · exact resolved_eq_of_samePath same
    · exact respelled.resolved_eq
    · exact respelled.resolved_eq.symm

end Components

/-- Where a component leads from a place. -/
def Component.enter (place : Place) : Component → Place
  | .root => []
  | .current => place
  | .parent => place.dropLast
  | .name text => place ++ [text]

section Walks

variable {fs : System} {path other : String} {place next : Place}

theorem step_eq {piece : List Char} (stepped : fs.step place piece = .ok next) :
    next = (Component.ofPiece? piece).toList.foldl Component.enter place := by
  unfold System.step at stepped
  unfold Component.ofPiece?
  split at stepped
  · cases stepped
  · cases stepped
  split at stepped
  · next nothing =>
    cases stepped
    rw [if_pos nothing]
    rfl
  · next something =>
    rw [if_neg something]
    split at stepped
    · next up =>
      cases stepped
      rw [if_pos up]
      rfl
    · next down =>
      rw [if_neg down]
      split at stepped
      · cases stepped
      · cases stepped
        rfl

/-- Following a path, one gets where its components lead. -/
theorem follow_eq {pieces : List (List Char)} (followed : fs.follow place pieces = .ok next) :
    next = (pieces.filterMap Component.ofPiece?).foldl Component.enter place := by
  induction pieces generalizing place with
  | nil =>
    cases followed
    rfl
  | cons piece rest ih =>
    obtain ⟨middle, stepped, followed⟩ := Except.bind_eq_ok_iff.mp followed
    have first := step_eq stepped
    have later := ih followed
    cases means : Component.ofPiece? piece with
    | none =>
      rw [means] at first
      rw [List.filterMap_cons_none means, later, first]
      rfl
    | some component =>
      rw [means] at first
      rw [List.filterMap_cons_some means, later, first]
      rfl

theorem foldl_names (place : Place) (names : List String) :
    (names.map Component.name).foldl Component.enter place = place ++ names := by
  induction names generalizing place with
  | nil => rw [List.map_nil, List.foldl_nil, List.append_nil]
  | cons text rest ih =>
    rw [List.map_cons, List.foldl_cons, ih, Component.enter, List.append_assoc]
    rfl

/-- From where a path starts, its steps lead to where it leads from the root. -/
theorem foldl_steps (fs : System) (path : String) :
    (steps path).foldl Component.enter (fs.start path.toList) =
      (resolved fs.here path).foldl Component.enter [] := by
  by_cases absolute : path.toList.head? = some '/'
  · obtain ⟨rest, chars⟩ := List.head?_eq_some_iff.mp absolute
    rw [resolved_of_absolute absolute, chars]
    rfl
  · have start : fs.start path.toList = fs.here := by
      unfold System.start
      split
      · next chars => simp [chars] at absolute
      · rfl
    rw [resolved_of_relative absolute, List.foldl_append, foldl_names, List.nil_append, start]

private theorem of_enter {entry : Place × List (List Char)}
    (entered : fs.enter path = .ok entry) :
    entry = (fs.start path.toList, Text.pieces '/' path.toList) := by
  simp only [System.enter] at entered
  split at entered
  · cases entered
  split at entered
  · cases entered
  split at entered
  · cases entered
  · cases entered
    rfl

/-- What is found under a path is found where the path leads from the root. -/
theorem locate_eq {node : Node} (located : fs.locate path = .ok (place, node)) :
    place = (resolved fs.here path).foldl Component.enter [] := by
  obtain ⟨_, entered, located⟩ := Except.bind_eq_ok_iff.mp located
  obtain rfl := of_enter entered
  obtain ⟨_, followed, located⟩ := Except.bind_eq_ok_iff.mp located
  split at located
  · cases located
    exact (follow_eq followed).trans (foldl_steps fs path)
  · cases located

/-- Taking off blank pieces takes off none if it leaves as many. -/
private theorem eq_of_length {pieces : List (List Char)}
    (whole : ¬(pieces.reverse.dropWhile List.isEmpty).reverse.length < pieces.length) :
    (pieces.reverse.dropWhile List.isEmpty).reverse = pieces := by
  have suffix := List.dropWhile_suffix (l := pieces.reverse) List.isEmpty
  have same := suffix.eq_of_length_le (by simpa using whole)
  rw [same, List.reverse_reverse]

/-- What is written under a path is written where the path leads from the root. -/
theorem claim_eq {content : List UInt8} (claimed : fs.claim path = .ok (place, content)) :
    place = (resolved fs.here path).foldl Component.enter [] := by
  obtain ⟨_, entered, claimed⟩ := Except.bind_eq_ok_iff.mp claimed
  obtain rfl := of_enter entered
  obtain ⟨parent, followed, claimed⟩ := Except.bind_eq_ok_iff.mp claimed
  obtain ⟨place, stepped, claimed⟩ := Except.bind_eq_ok_iff.mp claimed
  split at claimed
  · cases claimed
  next whole =>
    obtain ⟨_, _, same⟩ := Except.bind_eq_ok_iff.mp claimed
    cases same
    rw [eq_of_length whole] at followed stepped
    have nonempty := Text.pieces_ne_nil '/' path.toList
    have all := List.dropLast_concat_getLast nonempty
    rw [List.getLast?_eq_some_getLast nonempty, Option.getD_some] at stepped
    generalize (Text.pieces '/' path.toList).getLast nonempty = last at all stepped
    rw [← foldl_steps, steps, ← all, List.filterMap_append, List.foldl_append, ← follow_eq followed,
      step_eq stepped]
    cases means : Component.ofPiece? last with
    | none => rw [List.filterMap_cons_none means]; rfl
    | some component => rw [List.filterMap_cons_some means]; rfl

/-- Without steps out of a directory, components are the names that they lead to. -/
private theorem eq_of_foldl {components others : List Component}
    (named : ∀ component ∈ components, ∃ text, component = .name text)
    (namedToo : ∀ component ∈ others, ∃ text, component = .name text)
    (same : components.foldl Component.enter [] = others.foldl Component.enter []) :
    components = others := by
  have asNames {components : List Component}
      (named : ∀ component ∈ components, ∃ text, component = .name text) :
      ∃ names : List String, components = names.map .name := by
    induction components with
    | nil => exact ⟨[], rfl⟩
    | cons first rest ih =>
      obtain ⟨⟨text, rfl⟩, namedRest⟩ := List.forall_mem_cons.mp named
      obtain ⟨names, rfl⟩ := ih namedRest
      exact ⟨text :: names, rfl⟩
  obtain ⟨names, rfl⟩ := asNames named
  obtain ⟨namesToo, rfl⟩ := asNames namedToo
  rw [foldl_names, foldl_names, List.nil_append, List.nil_append] at same
  rw [same]

private theorem named_resolved (inside : .parent ∉ steps path) (here : Place) :
    ∀ component ∈ resolved here path, ∃ text, component = .name text := by
  intro component listed
  have known : component ∈ here.map .name ∨ component ∈ steps path := by
    unfold resolved at listed
    split at listed
    · exact .inr (List.nil_append (steps path) ▸ listed)
    · exact List.mem_append.mp listed
  obtain above | below := known
  · obtain ⟨text, _, rfl⟩ := List.mem_map.mp above
    exact ⟨text, rfl⟩
  · obtain ⟨noRoot, noDot⟩ := mem_steps below
    cases component with
    | root => exact absurd rfl noRoot
    | current => exact absurd rfl noDot
    | parent => exact absurd below inside
    | name text => exact ⟨text, rfl⟩

/-- Where something is found under one path and can be written under another one: if both mean the
same, that is one place, and only then if neither path steps out of a directory. -/
theorem place_eq_of_resolved {node : Node} {content : List UInt8}
    (located : fs.locate path = .ok (place, node))
    (claimed : fs.claim other = .ok (next, content)) :
    (resolved fs.here path = resolved fs.here other → next = place) ∧
    (.parent ∉ steps path → .parent ∉ steps other → next = place →
      resolved fs.here path = resolved fs.here other) := by
  rw [locate_eq located, claim_eq claimed]
  refine ⟨fun same => by rw [same], fun inside insideToo same => ?_⟩
  exact eq_of_foldl (named_resolved inside fs.here) (named_resolved insideToo fs.here) same.symm

end Walks

end SensorRelay.Files
