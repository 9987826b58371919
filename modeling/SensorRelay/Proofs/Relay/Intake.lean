import SensorRelay.Proofs.Reading.Stream
import SensorRelay.Proofs.Relay.Following
import SensorRelay.Proofs.Relay.Upstream

/-! # From the input to the source

What the reader of a run has in store and what is still in the input are together the elements that
are ahead (`Run.Reads`). A producer that wants an element gets the first of them, or there is none
(`Run.Reads.supply`).
-/

namespace SensorRelay.Relay

/-- All elements that the bytes of an input make. -/
def elementsOf (content : List UInt8) : List (Drawn Reading) :=
  (Record.stream 0 content).map drawn

private theorem elementsOf_eq (content : List UInt8) :
    elementsOf content = (Record.readings content).map .item ++
      (Record.remainder (0 + Record.size * (content.length / Record.size))
        (content.drop (Record.size * (content.length / Record.size)))).map drawn := by
  rw [elementsOf, Record.stream, List.map_append, List.map_map]
  rfl

theorem filterMap_kept?_elementsOf (content : List UInt8) :
    (elementsOf content).filterMap Drawn.kept? =
      (Record.readings content).filter fun r => !r.isEndOfStream := by
  have items (readings : List Reading) :
      (readings.map Drawn.item).filterMap Drawn.kept? =
        readings.filter fun r => !r.isEndOfStream := by
    induction readings with
    | nil => rfl
    | cons r rest ih =>
      rw [List.map_cons, List.filterMap_cons, ih]
      cases reserved : r.isEndOfStream <;> simp [Drawn.kept?, reserved]
  rw [elementsOf_eq, List.filterMap_append, items, Record.remainder]
  split
  · exact List.append_nil _
  · exact List.append_nil _

theorem countP_isReserved_elementsOf (content : List UInt8) :
    (elementsOf content).countP Drawn.isReserved =
      (Record.readings content).countP Reading.isEndOfStream := by
  rw [elementsOf_eq, List.countP_append, List.countP_map, Record.remainder]
  split
  · exact Nat.add_zero _
  · exact Nat.add_zero _

theorem countP_isFailure_elementsOf (content : List UInt8) :
    (elementsOf content).countP Drawn.isFailure =
      if content.length % Record.size = 0 then 0 else 1 := by
  have noFailure : ((Record.readings content).map Drawn.item).countP Drawn.isFailure = 0 := by
    simp [List.countP_eq_zero, Drawn.isFailure]
  have whole : content.drop (Record.size * (content.length / Record.size)) = [] ↔
      content.length % Record.size = 0 := by
    have := Nat.div_add_mod content.length Record.size
    rw [List.drop_eq_nil_iff]
    omega
  rw [elementsOf_eq, List.countP_append, noFailure, Nat.zero_add, Record.remainder]
  split
  · next nothing => rw [if_pos (whole.mp nothing)]; rfl
  · next left => rw [if_neg (mt whole.mpr left)]; rfl

namespace Run

/-- The reader of a run on its way through `content`, of which the elements that are `ahead` have
not been drawn from it yet. -/
structure Reads (content : List UInt8) (ahead : List (Drawn Reading)) (run : Run) : Prop where
  going : run.reader.ended = false → ∃ held, run.reader.source.Holds held ∧
    run.ahead = held.length ∧
    ahead = (Record.stream run.reader.offset (held ++ content.drop run.input.offset)).map drawn
  ended : run.reader.ended = true → ahead = []

variable {place target : Files.Place} {content base : List UInt8} {ahead : List (Drawn Reading)}
  {run : Run}

theorem Reads.follow (reads : run.Reads content ahead) : run.follow.Reads content ahead where
  going going := by
    rw [reader_follow] at going ⊢
    rw [ahead_follow, input_follow]
    exact reads.going going
  ended ended := reads.ended (by rwa [reader_follow] at ended)

/-- Reading on brings the next bytes of the input, as far as there are some. -/
private theorem read_follow (apart : place ≠ target)
    (follows : run.Follows place target content base) :
    run.follow.input.read run.follow.files bufferSize =
      .ok ((content.drop run.input.offset).take bufferSize,
        { run.input with
          offset := run.input.offset +
            ((content.drop run.input.offset).take bufferSize).length }) := by
  have intact := (follows.follow apart).intact
  rw [← follows.input] at intact
  simp only [Files.Handle.read, input_follow, intact]

/-- A run that has stocked up has a whole record at hand, or all that is left. -/
structure Stocked (content : List UInt8) (run : Run) : Prop where
  going : run.reader.ended = false
  enough : run.ahead < Record.size → content.drop run.input.offset = []

private theorem drop_length_take (bytes : List UInt8) (amount : Nat) :
    bytes.drop (bytes.take amount).length = bytes.drop amount := by
  rw [List.length_take]
  obtain few | many := Nat.le_total bytes.length amount
  · rw [Nat.min_eq_right few, List.drop_length, List.drop_eq_nil_of_le few]
  · rw [Nat.min_eq_left many]

private theorem Reads.refill (apart : place ≠ target)
    (follows : run.Follows place target content base) (reads : run.Reads content ahead)
    (going : run.reader.ended = false) :
    run.refill.Follows place target content base ∧ run.refill.Reads content ahead ∧
      run.refill.Stocked content ∧ run.refill.world = run.world := by
  obtain ⟨held, holds, amount, same⟩ := reads.going going
  have after := follows.follow apart
  have given := read_follow apart follows
  have front := List.take_append_drop bufferSize (content.drop run.input.offset)
  cases bytes : (content.drop run.input.offset).take bufferSize with
  | nil =>
    have refill : run.refill = run.follow := by simp only [Run.refill, given, bytes]
    have nothing : content.drop run.input.offset = [] := by
      rw [List.take_eq_nil_iff] at bytes
      exact bytes.resolve_left (by decide)
    rw [refill]
    refine ⟨after, reads.follow, ⟨?_, fun _ => ?_⟩, world_follow run⟩
    · rwa [reader_follow]
    · rwa [input_follow]
  | cons byte more =>
    have refill : run.refill = { run.follow with
        reader := { run.reader with source := { run.reader.source with
          deliveries := run.reader.source.deliveries ++ [.bytes (byte :: more)] } }
        input := { run.input with offset := run.input.offset + (byte :: more).length }
        ahead := run.ahead + (byte :: more).length } := by
      simp only [Run.refill, given, bytes, reader_follow, ahead_follow]
    have length : (byte :: more).length =
        min bufferSize (content.drop run.input.offset).length := by
      rw [← bytes, List.length_take]
    have rest : content.drop (run.input.offset + (byte :: more).length) =
        (content.drop run.input.offset).drop bufferSize := by
      rw [← List.drop_drop, ← bytes, drop_length_take]
    rw [bytes] at front
    rw [refill]
    refine ⟨?_, ⟨fun _ => ?_, ?_⟩, ⟨going, ?_⟩, world_follow run⟩
    · exact { after with input := follows.input }
    · refine ⟨held ++ byte :: more, holds.deliver (by simp), ?_, ?_⟩
      · simp [amount]
      · simp only
        rw [rest, List.append_assoc, front, same]
    · simp [going]
    · intro few
      have large : Record.size ≤ bufferSize := by decide
      simp only at few
      rw [rest, List.drop_eq_nil_iff]
      omega

private theorem Reads.stock (apart : place ≠ target)
    (follows : run.Follows place target content base) (reads : run.Reads content ahead)
    (going : run.reader.ended = false) :
    run.stock.Follows place target content base ∧ run.stock.Reads content ahead ∧
      run.stock.Stocked content ∧ run.stock.world = run.world := by
  unfold Run.stock
  split
  · exact reads.refill apart follows going
  · next enough => exact ⟨follows, reads, ⟨going, fun few => absurd few enough⟩, rfl⟩

/-- A whole record that is at hand is the next element. -/
private theorem Reads.pass_of_le (follows : run.Follows place target content base)
    {held : List UInt8} (going : run.reader.ended = false) (holds : run.reader.source.Holds held)
    (amount : run.ahead = held.length) (long : Record.size ≤ held.length) (index : Nat)
    (same : ahead =
      (Record.stream run.reader.offset (held ++ content.drop run.input.offset)).map drawn) :
    ∃ element later, ahead = element :: later ∧
      (run.pass index).world = run.world.supply index element ∧
      (run.pass index).Follows place target content base ∧
      (run.pass index).Reads content later := by
  obtain ⟨source, next, left⟩ := RecordReader.next_of_le going holds long
  let reading := Record.decode (held.take Record.size)
  have pass : run.pass index = { run with
      reader := { run.reader with source, offset := run.reader.offset + Record.size }
      ahead := run.ahead - Record.size
      world := run.world.supply index (drawn (.ok reading)) } := by
    simp only [Run.pass, next, reading]
  have longer : Record.size ≤ (held ++ content.drop run.input.offset).length := by
    rw [List.length_append]
    omega
  rw [Record.stream_of_le longer, List.take_append_of_le_length long,
    List.drop_append_of_le_length long, List.map_cons] at same
  rw [pass]
  refine ⟨_, _, same, rfl, { follows with }, ⟨fun _ => ⟨_, left, ?_, rfl⟩, fun ended => ?_⟩⟩
  · simp [amount]
  · simp [going] at ended

/-- Less than a record at hand is the last element, unless it is nothing. -/
private theorem Reads.pass_of_lt (follows : run.Follows place target content base)
    {held : List UInt8} (going : run.reader.ended = false) (holds : run.reader.source.Holds held)
    (short : held.length < Record.size) (index : Nat)
    (same : ahead = (Record.remainder run.reader.offset held).map drawn) :
    (run.pass index).Follows place target content base ∧ (run.pass index).Reads content [] ∧
      ((run.pass index).world = run.world ∧ ahead = [] ∨
        ∃ element, ahead = [element] ∧
          (run.pass index).world = run.world.supply index element) := by
  obtain ⟨source, next⟩ := RecordReader.next_of_lt going holds short
  unfold Record.remainder at same next
  split at same
  · next nothing =>
    rw [if_pos nothing] at next
    have pass : run.pass index = { run with
        reader := { run.reader with source, ended := true }
        ahead := run.ahead - Record.size } := by
      simp only [Run.pass, next, List.head?_nil]
    rw [pass]
    exact ⟨{ follows with }, ⟨(by cases ·), fun _ => rfl⟩, .inl ⟨rfl, same⟩⟩
  · next left =>
    rw [if_neg left] at next
    let fault := ReadingFault.truncated run.reader.offset held.length Record.size
    have pass : run.pass index = { run with
        reader := { run.reader with source, ended := true }
        ahead := run.ahead - Record.size
        world := run.world.supply index (drawn (.error fault)) } := by
      simp only [Run.pass, next, List.head?_cons, fault]
    rw [pass]
    exact ⟨{ follows with }, ⟨(by cases ·), fun _ => rfl⟩, .inr ⟨_, same, rfl⟩⟩

/-- A run that has stocked up passes the first element on, or there is none. -/
private theorem Reads.pass (follows : run.Follows place target content base)
    (reads : run.Reads content ahead) (stocked : run.Stocked content) (index : Nat) :
    ∃ later, (run.pass index).Follows place target content base ∧
      (run.pass index).Reads content later ∧
      ((run.pass index).world = run.world ∧ ahead = [] ∧ later = [] ∨
        ∃ element, ahead = element :: later ∧
          (run.pass index).world = run.world.supply index element) := by
  obtain ⟨held, holds, amount, same⟩ := reads.going stocked.going
  obtain short | long := Nat.lt_or_ge held.length Record.size
  · rw [stocked.enough (amount ▸ short), List.append_nil, Record.stream_of_lt short] at same
    obtain ⟨followsNext, readsNext, ⟨world, nothing⟩ | ⟨element, last, world⟩⟩ :=
      Reads.pass_of_lt follows stocked.going holds short index same
    · exact ⟨[], followsNext, readsNext, .inl ⟨world, nothing, rfl⟩⟩
    · exact ⟨[], followsNext, readsNext, .inr ⟨element, last, world⟩⟩
  · obtain ⟨element, later, first, world, followsNext, readsNext⟩ :=
      Reads.pass_of_le follows stocked.going holds amount long index same
    exact ⟨later, followsNext, readsNext, .inr ⟨element, first, world⟩⟩

/-- An element is there for a producer that wants one, if there is one at all. -/
theorem Reads.supply (apart : place ≠ target) (follows : run.Follows place target content base)
    (reads : run.Reads content ahead) (index : Nat) :
    ∃ later, (run.supply index).Follows place target content base ∧
      (run.supply index).Reads content later ∧
      ((run.supply index).world = run.world ∧ later = ahead ∧
          (run.world.isDrawing index → ahead = []) ∨
        ∃ element, ahead = element :: later ∧ run.world.isDrawing index ∧
          (run.supply index).world = run.world.supply index element) := by
  unfold Run.supply
  split
  · next idle =>
    refine ⟨ahead, follows, reads, .inl ⟨rfl, rfl, fun wants => reads.ended ?_⟩⟩
    simpa [wants] using idle
  · next wants =>
    simp only [Bool.or_eq_true, Bool.not_eq_true', not_or, Bool.not_eq_true, Bool.not_eq_false]
      at wants
    obtain ⟨followsStill, readsStill, stocked, world⟩ := reads.stock apart follows wants.1
    obtain ⟨later, followsNext, readsNext, ⟨same, exhausted, rfl⟩ | ⟨element, first, supplied⟩⟩ :=
      readsStill.pass followsStill stocked index
    · exact ⟨[], followsNext, readsNext, .inl ⟨same.trans world, exhausted.symm, fun _ => exhausted⟩⟩
    · exact ⟨later, followsNext, readsNext, .inr ⟨element, first, wants.2, world ▸ supplied⟩⟩

end Run

end SensorRelay.Relay
