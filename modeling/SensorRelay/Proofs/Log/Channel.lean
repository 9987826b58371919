import SensorRelay.Log.Logger
import SensorRelay.Proofs.Files.System

/-! # Where logs go

The file of a log is at one place, or will be once it is opened for the first line. Logging changes
no file at any other place.
-/

namespace SensorRelay.Log

variable {fs other : Files.System} {place : Files.Place}

namespace LogFile

variable {file next : LogFile}

private theorem place?_of_opened {handle : Files.Handle} (opened : file.opened = some handle)
    (fs : Files.System) : file.place? fs = some handle.place := by
  rw [place?, opened]
  rfl

/-- A log file is written with its handle, which it gets when it is first written. -/
private theorem handle_of_write {after : Files.System} {bytes : List UInt8}
    (written : file.write fs bytes = .ok (next, after)) :
    ∃ (handle : Files.Handle) (before : Files.System), file.place? fs = some handle.place ∧
      (∀ other ≠ handle.place, before.find? other = fs.find? other) ∧
      next.opened = some (handle.write before bytes).1 ∧ after = (handle.write before bytes).2 := by
  cases opened : file.opened with
  | some handle =>
    have whole : file.write fs bytes = .ok ({ file with opened := some (handle.write fs bytes).1 },
        (handle.write fs bytes).2) := by
      simp only [LogFile.write, opened]
      rfl
    obtain ⟨rfl, rfl⟩ := Prod.mk.inj (Except.ok.inj (written.symm.trans whole))
    exact ⟨handle, fs, place?_of_opened opened fs, fun _ _ => rfl, rfl, rfl⟩
  | none =>
    cases claimed : fs.claim file.path with
    | error fault =>
      have whole : file.write fs bytes = .error fault := by
        simp only [LogFile.write, opened, Files.System.openOutput, claimed]
        rfl
      cases written.symm.trans whole
    | ok found =>
      let handle : Files.Handle := { place := found.1 }
      let before := fs.put found.1 (.file [])
      have whole : file.write fs bytes =
          .ok ({ file with opened := some (handle.write before bytes).1 },
            (handle.write before bytes).2) := by
        simp only [LogFile.write, opened, Files.System.openOutput, claimed]
        rfl
      obtain ⟨rfl, rfl⟩ := Prod.mk.inj (Except.ok.inj (written.symm.trans whole))
      refine ⟨handle, before, ?_, fun _ apart => Files.System.find?_put_of_ne apart _, rfl, rfl⟩
      rw [place?, opened, claimed]
      rfl

/-- A log file stays where it is. -/
theorem place?_of_write {after : Files.System} {bytes : List UInt8}
    (written : file.write fs bytes = .ok (next, after)) : next.place? after = file.place? fs := by
  obtain ⟨handle, before, here, _, opened, rfl⟩ := handle_of_write written
  rw [here, place?_of_opened opened, Files.Handle.place_write]

/-- What is written to a log file changes no other file. -/
theorem find?_of_write {after : Files.System} {bytes : List UInt8}
    (written : file.write fs bytes = .ok (next, after)) (apart : file.place? fs ≠ some place) :
    after.find? place = fs.find? place := by
  obtain ⟨handle, before, here, others, _, rfl⟩ := handle_of_write written
  have elsewhere : place ≠ handle.place := fun same => apart (here.trans (same ▸ rfl))
  exact (Files.Handle.find?_write_of_ne elsewhere bytes).trans (others place elsewhere)

end LogFile

namespace Channel

variable {channel : Channel}

theorem place?_of_sameDirectories (same : fs.SameDirectories other) (channel : Channel) :
    channel.place? other = channel.place? fs := by
  simp only [place?, LogFile.place?, same.claim_place]

private theorem log_cases (channel : Channel) (fs : Files.System) (records : List Record) :
    ((channel.log fs records).1.logger = channel.logger ∧ (channel.log fs records).2 = fs) ∨
      ∃ file next bytes, channel.logger.file = some file ∧
        (channel.log fs records).1.logger.file = some next ∧
        file.write fs bytes = .ok (next, (channel.log fs records).2) := by
  unfold log Logger.deliver
  cases goesTo : channel.logger.file with
  | none => exact .inl ⟨rfl, rfl⟩
  | some file =>
    dsimp only
    split
    · exact .inl ⟨rfl, rfl⟩
    · split
      · next written => exact .inr ⟨file, _, _, rfl, rfl, written⟩
      · exact .inl ⟨rfl, rfl⟩

/-- A log stays where it is. -/
theorem place?_log (channel : Channel) (fs : Files.System) (records : List Record) :
    (channel.log fs records).1.place? (channel.log fs records).2 = channel.place? fs := by
  obtain ⟨logger, files⟩ | ⟨file, next, bytes, goesTo, after, written⟩ :=
    log_cases channel fs records
  · rw [place?, logger, files, place?]
  · rw [place?, place?, goesTo, after]
    exact LogFile.place?_of_write written

/-- A log changes no file but its own. -/
theorem find?_log (apart : channel.place? fs ≠ some place) (records : List Record) :
    (channel.log fs records).2.find? place = fs.find? place := by
  obtain ⟨_, files⟩ | ⟨file, next, bytes, goesTo, _, written⟩ := log_cases channel fs records
  · rw [files]
  · rw [place?, goesTo] at apart
    exact LogFile.find?_of_write written apart

end Channel

end SensorRelay.Log
