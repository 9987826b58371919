import SensorRelay.Proofs.Reading.Line
import SensorRelay.Proofs.Reading.Sink
import SensorRelay.Proofs.Utf8

/-! # A file of lines read back

Every complete write puts one line after those that are there (`LineSink.content_of_write`). So what
some readings leave on a device is text of as many lines, and each line restores its reading.
-/

namespace SensorRelay.LineSink

variable {sink : LineSink} {readings : List Reading}

theorem results_of_reliable (reliable : sink.device.Reliable) (readings : List Reading) :
    ∀ p ∈ (sink.writeEach readings).1, p.result = .ok () := by
  induction readings generalizing sink with
  | nil => simp
  | cons r rest ih =>
    obtain ⟨completed, still⟩ := write_of_reliable reliable r
    rw [writeEach_cons]
    exact List.forall_mem_cons.mpr ⟨completed, ih still⟩

/-- What has been written are the lines of the readings, in their order. -/
theorem content_of_writeEach
    (completed : ∀ p ∈ (sink.writeEach readings).1, p.result = .ok ()) :
    (sink.writeEach readings).2.content = sink.content ++ readings.flatMap Reading.line := by
  induction readings generalizing sink with
  | nil => simp
  | cons r rest ih =>
    rw [writeEach_cons] at completed ⊢
    obtain ⟨first, later⟩ := List.forall_mem_cons.mp completed
    have line : (writeNoted r sink).2.content = sink.content ++ r.line := content_of_write first
    rw [ih later, line, List.flatMap_cons, List.append_assoc]

/-- The bytes of some lines are those of a text with a line end after each of them. -/
private theorem ofUtf8?_lines (readings : List Reading) :
    Text.ofUtf8? (readings.flatMap Reading.line) =
      some (String.ofList ((readings.map Line.chars).flatMap (· ++ ['\n']))) := by
  have joined : readings.flatMap Reading.line =
      bytes ((readings.map Line.chars).flatMap (· ++ ['\n'])) := by
    rw [bytes, List.map_flatMap, List.flatMap_map]
    exact List.flatMap_congr fun r _ => r.line_eq
  rw [joined]
  refine Text.ofUtf8?_ascii ?_
  intro c listed
  simp only [List.mem_flatMap, List.mem_map, List.mem_append, List.mem_singleton] at listed
  obtain ⟨_, ⟨r, _, rfl⟩, listed | rfl⟩ := listed
  · exact (Line.chars_ascii r c listed).1
  · decide

/-- The bytes of some lines are those of a text that falls into these lines. -/
theorem exists_text (readings : List Reading) :
    ∃ text, Text.ofUtf8? (readings.flatMap Reading.line) = some text ∧
      Text.pieces '\n' text.toList = readings.map Line.chars ++ [[]] := by
  refine ⟨_, ofUtf8?_lines readings, ?_⟩
  rw [String.toList_ofList]
  refine Text.pieces_flatMap fun line listed ended => ?_
  obtain ⟨r, _, rfl⟩ := List.mem_map.mp listed
  exact absurd (Line.chars_ascii r _ ended).2 (by decide)

/-- A reliable device takes every reading. On any device, if every write was complete, the readings
have left text of one line for each of them, in their order and with nothing after the last line
end, and each line restores its reading. -/
theorem lines_restore (sink : LineSink) (readings : List Reading) :
    (sink.device.Reliable → ∀ p ∈ (sink.writeEach readings).1, p.result = .ok ()) ∧
      ((∀ p ∈ (sink.writeEach readings).1, p.result = .ok ()) →
        ∃ written text lines, (sink.writeEach readings).2.content = sink.content ++ written ∧
          Text.ofUtf8? written = some text ∧ Text.pieces '\n' text.toList = lines ++ [[]] ∧
          List.Forall₂ Line.Restores lines readings) := by
  refine ⟨fun reliable => results_of_reliable reliable readings, fun completed => ?_⟩
  obtain ⟨text, decoded, lines⟩ := exists_text readings
  refine ⟨_, text, readings.map Line.chars, content_of_writeEach completed, decoded, lines, ?_⟩
  rw [List.forall₂_map_left_iff, List.forall₂_same]
  exact fun r _ => Line.restores_chars r

/-- A measurement and a NaN, on a device that is interrupted twice and takes three bytes at once. -/
theorem lines_restore_in_pieces :
    let sink : LineSink := ⟨{ chunk := some 3, interruptions := 2 }, 0⟩
    let readings : List Reading :=
      [⟨129, ⟨0x40313c6a7ef9db23⟩, 1699999999⟩, ⟨1, ⟨0xfff0000000000001⟩, -5⟩]
    (∀ p ∈ (sink.writeEach readings).1, p.result = .ok ()) ∧
      ∃ written text lines, (sink.writeEach readings).2.content = sink.content ++ written ∧
        Text.ofUtf8? written = some text ∧ Text.pieces '\n' text.toList = lines ++ [[]] ∧
        List.Forall₂ Line.Restores lines readings := by
  intro sink readings
  have reliable : sink.device.Reliable := ⟨rfl, by simp [sink], by simp [sink]⟩
  have restored := lines_restore sink readings
  have completed := restored.1 reliable
  exact ⟨completed, restored.2 completed⟩

end SensorRelay.LineSink
