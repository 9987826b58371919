import SensorRelay.Files.Handle
import SensorRelay.Proofs.Files.Path
import SensorRelay.Proofs.Settings.Layers

/-! # Input and output

Settings are refused if their input and their output have the same components. Two paths may lead to
one file without that, but only if one of them starts with a dot where the other does not, or names
the way from the root to the directory in which the program works. A file that is spelled so is
accepted as the output of a relay that reads it.
-/

namespace SensorRelay.Settings

open Files (Respelled resolved steps)

variable {args : Arguments} {file : Option ConfigFile} {settings : Settings}

/-- Paths with the same components are refused. -/
theorem samePath_of_resolve (accepted : resolve args file = .ok settings) :
    Files.samePath settings.input settings.output = false := by
  obtain ⟨unobjected, layers⟩ := merged_of_resolve accepted
  refine Bool.eq_false_iff.mpr fun same => ?_
  exact unobjected .samePaths _ (.samePaths layers.input layers.output same)

/-- Settings that are accepted name two files, wherever the program works, unless one of their paths
is the other one respelled: with a dot before it, or with the way from the root. If it is, and what
the input leads to is there, then the output is written to the same place; and it is not if it is
not, as long as neither path steps out of a directory. -/
theorem apart_unless_respelled (accepted : resolve args file = .ok settings)
    (fs : Files.System) :
    (resolved fs.here settings.input = resolved fs.here settings.output ↔
      Respelled fs.here settings.input settings.output ∨
        Respelled fs.here settings.output settings.input) ∧
    ∀ place node other content, fs.locate settings.input = .ok (place, node) →
      fs.claim settings.output = .ok (other, content) →
      (Respelled fs.here settings.input settings.output ∨
        Respelled fs.here settings.output settings.input → other = place) ∧
      (.parent ∉ steps settings.input → .parent ∉ steps settings.output → other = place →
        Respelled fs.here settings.input settings.output ∨
          Respelled fs.here settings.output settings.input) := by
  have means : resolved fs.here settings.input = resolved fs.here settings.output ↔
      Respelled fs.here settings.input settings.output ∨
        Respelled fs.here settings.output settings.input := by
    rw [Files.resolved_eq_iff, samePath_of_resolve accepted]
    simp only [Bool.false_eq_true, false_or]
  refine ⟨means, fun place node other content located claimed => ?_⟩
  obtain ⟨onePlace, onlyThen⟩ := Files.place_eq_of_resolved located claimed
  constructor
  · intro respelled
    exact onePlace (means.mpr respelled)
  · intro inside insideToo same
    exact means.mp (onlyThen inside insideToo same)

private def home : Files.System where
  nodes := [(["home"], .directory), (["home", "data"], .file [7])]
  here := ["home"]

/-- The way from the root to the input is accepted as the output, and leads to the same file. -/
theorem apart_unless_respelled_at_home :
    ∃ settings, resolve { input := some "data", output := some "/home//data" } none
        = .ok settings ∧
      resolved home.here settings.input = resolved home.here settings.output ∧
      home.claim settings.output = .ok (["home", "data"], [7]) ∧
      ∀ place node other content, home.locate settings.input = .ok (place, node) →
        home.claim settings.output = .ok (other, content) → other = place := by
  obtain ⟨settings, accepted, input, output⟩ : ∃ settings,
      resolve { input := some "data", output := some "/home//data" } none = .ok settings ∧
        settings.input = "data" ∧ settings.output = "/home//data" := ⟨_, rfl, rfl, rfl⟩
  have respelled : Respelled home.here settings.output settings.input := by
    rw [input, output]
    exact .rooted (by decide)
  have claimed : home.claim settings.output = .ok (["home", "data"], [7]) := by
    rw [output]
    decide
  obtain ⟨means, leads⟩ := apart_unless_respelled accepted home
  refine ⟨settings, accepted, means.mpr (.inr respelled), claimed, ?_⟩
  intro place node other content located claimed
  exact (leads place node other content located claimed).1 (.inr respelled)

/-- An output that is the input with a dot before it is accepted, whatever the directory, and
opening it empties the input. -/
theorem dotted_output_accepted :
    ∃ settings, resolve { input := some "data", output := some "./data" } none = .ok settings ∧
      (∀ here, resolved here settings.input = resolved here settings.output) ∧
      home.locate settings.input = .ok (["home", "data"], .file [7]) ∧
      ((home.openOutput settings.output settings.append).toOption.bind fun opened =>
        opened.2.find? ["home", "data"]) = some (.file []) := by
  refine ⟨_, rfl, fun here => ?_, by decide, by decide⟩
  rfl

end SensorRelay.Settings
