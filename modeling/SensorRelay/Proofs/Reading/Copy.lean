import SensorRelay.Proofs.Reading.Lines

/-! # A file of lines copied

Two decimals are all that is left of a value in its line. Where values lie closer than hundredths,
the value that is read stays within half a hundredth of them, and so it is written with the same
ones; where they lie farther apart, it is the value that was there before. So nothing more is lost
when a file of lines is read and written once more: the copy is the same, byte for byte.
-/

namespace SensorRelay.LineSink

/-- The lines of some readings can all be read, and what is read is written as the same lines. -/
theorem exists_copy (readings : List Reading) :
    ∃ again, (readings.map Line.chars).mapM (fun line => Line.parse (String.ofList line)) =
        .ok again ∧
      again.flatMap Reading.line = readings.flatMap Reading.line := by
  induction readings with
  | nil => exact ⟨[], rfl, rfl⟩
  | cons r rest ih =>
    obtain ⟨others, read, lines⟩ := ih
    obtain ⟨value, parsed, _⟩ := Line.parse_format r
    have line : Reading.line { r with value } = r.line := by
      rw [Reading.line, Reading.line, Line.format_of_parse_format parsed]
    refine ⟨{ r with value } :: others, ?_, ?_⟩
    · rw [Line.format] at parsed
      rw [List.map_cons, List.mapM_cons, parsed, read]
      rfl
    · rw [List.flatMap_cons, List.flatMap_cons, line, lines]

/-- Every line that is written for a reading can be read, and is written the same for what is read.
If some readings were written completely, all lines of their text can be read; and if what is read
is written completely, here or elsewhere, the same bytes are added there. -/
theorem lines_reproduced (sink copy : LineSink) (readings : List Reading) :
    (∀ r : Reading, ∃ again, Line.parse (Line.format r) = .ok again ∧
      Line.format again = Line.format r) ∧
    ((∀ p ∈ (sink.writeEach readings).1, p.result = .ok ()) →
      ∃ written text lines again, (sink.writeEach readings).2.content = sink.content ++ written ∧
        Text.ofUtf8? written = some text ∧ Text.pieces '\n' text.toList = lines ++ [[]] ∧
        lines.mapM (fun line => Line.parse (String.ofList line)) = .ok again ∧
        ((∀ p ∈ (copy.writeEach again).1, p.result = .ok ()) →
          (copy.writeEach again).2.content = copy.content ++ written)) := by
  refine ⟨fun r => ?_, fun completed => ?_⟩
  · obtain ⟨value, parsed, _⟩ := Line.parse_format r
    exact ⟨{ r with value }, parsed, Line.format_of_parse_format parsed⟩
  · obtain ⟨again, read, same⟩ := exists_copy readings
    obtain ⟨text, decoded, lines⟩ := exists_text readings
    refine ⟨_, text, _, again, content_of_writeEach completed, decoded, lines, read, ?_⟩
    intro copied
    rw [content_of_writeEach copied, same]

/-- A value that is rounded to a negative zero, one from where values lie farther apart than
hundredths, and a NaN, copied from one device to another that already holds a line end. Only the
second of them is read as the value that it was. -/
theorem lines_reproduced_elsewhere :
    let sink : LineSink := ⟨{ chunk := some 3, interruptions := 2 }, 0⟩
    let copy : LineSink := ⟨{ accepted := #[10] }, 0⟩
    let readings : List Reading :=
      [⟨1, ⟨0xbf60624dd2f1a9fc⟩, 7⟩, ⟨2, ⟨0x42d0000000000001⟩, 8⟩, ⟨3, ⟨0xfff0000000000001⟩, -5⟩]
    let again : List Reading :=
      [⟨1, ⟨0x8000000000000000⟩, 7⟩, ⟨2, ⟨0x42d0000000000001⟩, 8⟩, ⟨3, ⟨0x7ff8000000000000⟩, -5⟩]
    let lines := ["1,-0.00,7".toList, "2,70368744177664.02,8".toList, "3,NaN,-5".toList]
    let written := "1,-0.00,7\n2,70368744177664.02,8\n3,NaN,-5\n".toUTF8.data.toList
    (sink.writeEach readings).2.content = written ∧
      lines.mapM (fun line => Line.parse (String.ofList line)) = .ok again ∧
      (copy.writeEach again).2.content = 10 :: written := by
  intro sink copy readings again lines written
  have reliable : sink.device.Reliable := ⟨rfl, by simp [sink], by simp [sink]⟩
  have reliableToo : copy.device.Reliable := ⟨rfl, by simp [copy], by simp [copy]⟩
  obtain ⟨added, text, split, reread, content, decoded, pieces, read, copied⟩ :=
    (lines_reproduced sink copy readings).2 (results_of_reliable reliable readings)
  have known : (sink.writeEach readings).2.content = written := by decide +kernel
  obtain rfl : written = added := known.symm.trans content
  have spelled : Text.ofUtf8? written =
      some "1,-0.00,7\n2,70368744177664.02,8\n3,NaN,-5\n" := by decide +kernel
  obtain rfl := Option.some.inj (spelled.symm.trans decoded)
  have divided : Text.pieces '\n' "1,-0.00,7\n2,70368744177664.02,8\n3,NaN,-5\n".toList =
      lines ++ [[]] := by decide +kernel
  obtain rfl : lines = split := List.append_cancel_right (divided.symm.trans pieces)
  have parsed : lines.mapM (fun line => Line.parse (String.ofList line)) = .ok again := by
    decide +kernel
  obtain rfl : again = reread := Except.ok.inj (parsed.symm.trans read)
  exact ⟨known, parsed, copied (results_of_reliable reliableToo again)⟩

end SensorRelay.LineSink
