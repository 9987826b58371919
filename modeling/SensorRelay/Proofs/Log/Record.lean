import SensorRelay.Log.Record
import SensorRelay.Proofs.Json.Value
import SensorRelay.Proofs.Utf8

/-! # Records in JSON, read back

All that a record says in JSON are strings, so it comes back from its line whatever it holds, and
the line has no line end in it. Records that say different things are written differently.
-/

namespace SensorRelay.Log

theorem Level.abbreviation_injective : Function.Injective Level.abbreviation := by
  intro level other
  cases level <;> cases other <;> decide

namespace Record

/-- What a record says in JSON. -/
def members (r : Record) (stamp : Stamp) : List (String × String) :=
  [("level", r.level.abbreviation), ("message", r.message), ("target", r.origin),
    ("thread", r.threadName), ("timestamp", stamp 'T' ++ "Z")]

variable (r : Record) (stamp : Stamp)

theorem json_eq :
    r.json stamp = Json.object ((r.members stamp).map fun m => (m.1, Json.quoted m.2)) := rfl

theorem read_json :
    Json.read (r.json stamp) =
      .ok (.object ((r.members stamp).map fun m => (m.1, .text m.2))) := by
  rw [json_eq]
  refine Json.read_of_closed (Json.closed_object ?_)
  rw [List.forall₂_map_left_iff, List.forall₂_map_right_iff, List.forall₂_same]
  exact fun m _ => ⟨rfl, Json.closed_quoted _ m.2⟩

theorem visible_json : Json.Visible (r.json stamp).toList := by
  rw [json_eq]
  refine Json.visible_object (List.forall_mem_map.mpr fun m _ => ?_)
  rw [Json.quoted, String.toList_ofList]
  exact Json.visible_quotedChars m.2.toList

/-- What is written alike says the same. -/
theorem json_eq_iff {r other : Record} {stamp moment : Stamp} :
    other.json moment = r.json stamp ↔ other.members moment = r.members stamp := by
  constructor
  · intro same
    have read := read_json other moment
    rw [same, read_json, Except.ok.injEq, Json.Value.object.injEq] at read
    have apart : Function.Injective fun m : String × String => (m.1, Json.Value.text m.2) := by
      rintro ⟨name, text⟩ ⟨name', text'⟩ alike
      cases alike
      rfl
    exact (List.map_injective_iff.mpr apart read).symm
  · intro same
    rw [json_eq, json_eq, same]

/-- A record is one line of JSON, and nothing of it is lost. Its bytes hold no control character, so
no line end, and are read as an object with its level, its message, its target, the name of its
thread and its moment. So records that differ in one of these are written differently. -/
theorem json_one_line :
    (∀ byte ∈ Text.toUtf8 (r.json stamp), 0x20 ≤ byte.toNat) ∧
      (∃ text, Text.ofUtf8? (Text.toUtf8 (r.json stamp)) = some text ∧
        Json.read text = .ok (.object
          [("level", .text r.level.abbreviation), ("message", .text r.message),
            ("target", .text r.origin), ("thread", .text (r.thread.getD "unnamed")),
            ("timestamp", .text (stamp 'T' ++ "Z"))])) ∧
      ∀ (other : Record) (moment : Stamp),
        Text.toUtf8 (other.json moment) = Text.toUtf8 (r.json stamp) ↔
          other.level = r.level ∧ other.message = r.message ∧ other.origin = r.origin ∧
            other.thread.getD "unnamed" = r.thread.getD "unnamed" ∧ moment 'T' = stamp 'T' := by
  refine ⟨fun byte listed => ?_, ⟨r.json stamp, Text.ofUtf8?_toUtf8 _, read_json r stamp⟩, ?_⟩
  · rw [Text.toUtf8_eq] at listed
    obtain ⟨c, inside, part⟩ := List.mem_flatMap.mp listed
    have visible := visible_json r stamp c inside
    rcases Text.byte_eq_or_le part with same | high <;> omega
  · intro other moment
    have moments : moment 'T' ++ "Z" = stamp 'T' ++ "Z" ↔ moment 'T' = stamp 'T' :=
      String.append_left_inj "Z"
    rw [Text.toUtf8_injective.eq_iff, json_eq_iff]
    simp only [members, List.cons.injEq, Prod.mk.injEq, true_and, and_true, threadName, moments,
      Level.abbreviation_injective.eq_iff]

/-- A message that ends the line and goes on with a record of its own stays a message. The thread
that has no name is written like the one named so, and unlike any other. -/
theorem json_one_line_forged :
    let stamp : Stamp := fun separator => s!"2024-01-01{separator}00:00:00.000"
    let r : Record :=
      { level := .info, target := "sensorbuf::queue::shared", line := some 7
        message := "é\"\\\n\x7b\"level\":\"ERR\"\x7d", thread := none }
    10 ∉ Text.toUtf8 (r.json stamp) ∧
      (∃ text, Text.ofUtf8? (Text.toUtf8 (r.json stamp)) = some text ∧
        Json.read text = .ok (.object
          [("level", .text "INF"), ("message", .text "é\"\\\n\x7b\"level\":\"ERR\"\x7d"),
            ("target", .text "queue/shared.rs:7"), ("thread", .text "unnamed"),
            ("timestamp", .text "2024-01-01T00:00:00.000Z")])) ∧
      Text.toUtf8 (json { r with thread := some "unnamed" } stamp) = Text.toUtf8 (r.json stamp) ∧
      Text.toUtf8 (json { r with thread := some "main" } stamp) ≠ Text.toUtf8 (r.json stamp) := by
  intro stamp r
  obtain ⟨visible, read, alike⟩ := json_one_line r stamp
  have origin : r.origin = "queue/shared.rs:7" := by decide
  have moment : stamp 'T' ++ "Z" = "2024-01-01T00:00:00.000Z" := by decide
  rw [origin, moment] at read
  refine ⟨fun ended => absurd (visible 10 ended) (by decide), read, ?_, fun same => ?_⟩
  · exact (alike _ stamp).mpr ⟨rfl, rfl, rfl, rfl, rfl⟩
  · exact absurd ((alike _ stamp).mp same).2.2.2.1 (by decide)

end Record

end SensorRelay.Log
