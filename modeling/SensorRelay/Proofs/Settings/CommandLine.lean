import SensorRelay.Except
import SensorRelay.Settings.CommandLine

/-! # What a command line lets through

Arguments are built up by `assign`, one option at a time. So whatever `assign` keeps holds of all
arguments that a command line gives, and what it keeps are the values that are on offer.
-/

namespace SensorRelay.Settings

/-- Arguments whose values are among those on offer. -/
structure Arguments.Offered (args : Arguments) : Prop where
  consumers : ∀ n, args.consumers = some n → 1 ≤ n ∧ n ≤ 65535
  termination : ∀ name, args.termination = some name → name ∈ ["sentinel", "close"]
  logLevel : ∀ level, args.logLevel = some level → level ∈ CommandLine.levels
  logFormat : ∀ format, args.logFormat = some format → format ∈ ["text", "ext", "json"]

namespace CommandLine

/-- What `assign` keeps. -/
def Kept (motive : Arguments → Prop) : Prop :=
  ∀ args name value next, motive args → assign args name value = .ok next → motive next

namespace Scan

variable {motive : Arguments → Prop} {s after : Scan}

theorem store_keeps (kept : Kept motive) (holds : motive s.arguments) {name : Name}
    {value : List Char} (stored : s.store name value = .ok after) : motive after.arguments := by
  unfold store at stored
  split at stored
  · cases stored
  · obtain ⟨next, assigned, rfl⟩ := Except.map_eq_ok_iff.mp stored
    exact kept _ _ _ _ holds assigned

theorem resolve_keeps (kept : Kept motive) (holds : motive s.arguments)
    (resolved : s.resolve = .ok after) : motive after.arguments := by
  unfold resolve at resolved
  split at resolved
  · cases resolved
    exact holds
  · cases resolved
  · exact store_keeps kept holds resolved

theorem take_keeps (kept : Kept motive) (holds : motive s.arguments) {name : Name}
    {value : List Char} (taken : s.take name value = .ok after) : motive after.arguments := by
  obtain ⟨next, resolved, stored⟩ := Except.bind_eq_ok_iff.mp taken
  exact store_keeps kept (resolve_keeps kept holds resolved) stored

theorem await_keeps (kept : Kept motive) (holds : motive s.arguments) {name : Name}
    (awaited : s.await name = .ok after) : motive after.arguments := by
  obtain ⟨next, resolved, rfl⟩ := Except.map_eq_ok_iff.mp awaited
  show motive next.arguments
  exact resolve_keeps kept holds resolved

theorem letters_keeps (kept : Kept motive) (letters : List Char) (holds : motive s.arguments)
    (scanned : s.letters letters = .ok after) : motive after.arguments := by
  induction letters generalizing s with
  | nil =>
    cases scanned
    exact holds
  | cons letter rest ih =>
    unfold Scan.letters at scanned
    split at scanned
    · cases scanned
    · rename_i name _
      split at scanned
      · split at scanned
        · exact await_keeps kept holds scanned
        · exact take_keeps kept holds scanned
        · exact take_keeps kept holds scanned
      · obtain ⟨next, taken, scanned⟩ := Except.bind_eq_ok_iff.mp scanned
        exact ih (take_keeps kept holds (Except.mapError_eq_ok_iff.mp taken)) scanned

theorem long_keeps (kept : Kept motive) {text : List Char} (holds : motive s.arguments)
    (scanned : s.long text = .ok after) : motive after.arguments := by
  unfold long at scanned
  split at scanned
  · cases scanned
  · split at scanned
    · exact await_keeps kept holds scanned
    · exact take_keeps kept holds scanned
  · split at scanned
    · exact take_keeps kept holds scanned
    · cases scanned

theorem plain_keeps {word : List Char} (holds : motive s.arguments)
    (scanned : s.plain word = .ok after) : motive after.arguments := by
  unfold plain at scanned
  split at scanned
  · cases scanned
    exact holds
  · cases scanned

theorem word_keeps (kept : Kept motive) {word : List Char} (holds : motive s.arguments)
    (scanned : s.word word = .ok after) : motive after.arguments := by
  unfold Scan.word at scanned
  split at scanned
  · exact long_keeps kept holds scanned
  · exact plain_keeps holds scanned
  · exact letters_keeps kept _ holds scanned
  · exact plain_keeps holds scanned

theorem words_keeps (kept : Kept motive) (words : List String) (holds : motive s.arguments)
    (scanned : s.words words = .ok after) : motive after.arguments := by
  induction words generalizing s with
  | nil => exact resolve_keeps kept holds scanned
  | cons word rest ih =>
    unfold Scan.words at scanned
    split at scanned
    · contradiction
    · split at scanned
      · exact resolve_keeps kept holds scanned
      · cases scanned
    · rename_i same
      obtain ⟨rfl, rfl⟩ := List.cons.inj same
      obtain ⟨next, scan, scanned⟩ := Except.bind_eq_ok_iff.mp scanned
      exact ih (word_keeps kept holds scan) scanned

end Scan

/-- What holds of no arguments at all and is kept by `assign` holds of all that is parsed. -/
theorem parse_induction {motive : Arguments → Prop} (none : motive {}) (kept : Kept motive)
    {line : List String} {args : Arguments} (parsed : parse line = .ok args) : motive args := by
  unfold parse at parsed
  split at parsed
  · cases parsed
  · rename_i scan scanned
    split at parsed
    · cases parsed
    · cases parsed
      exact Scan.words_keeps kept line none scanned

theorem readConsumers_bounds {value : List Char} {n : Nat} (read : readConsumers value = .ok n) :
    1 ≤ n ∧ n ≤ 65535 := by
  unfold readConsumers at read
  split at read
  · split at read
    · cases read
      omega
    · cases read
  · cases read

theorem mem_of_readChoice {offered : List String} {value : List Char} {text : String}
    (read : readChoice offered value = .ok text) : text ∈ offered := by
  unfold readChoice at read
  split at read
  · cases read
    assumption
  · cases read

theorem kept_offered : Kept Arguments.Offered := by
  intro args name value next offered assigned
  obtain ⟨consumers, termination, logLevel, logFormat⟩ := offered
  cases name with
  | append | color | noColor =>
    cases assigned
    exact ⟨consumers, termination, logLevel, logFormat⟩
  | help | version => cases assigned
  | consumers =>
    obtain ⟨n, read, rfl⟩ := Except.map_eq_ok_iff.mp assigned
    refine ⟨?_, termination, logLevel, logFormat⟩
    rintro m same
    cases same
    exact readConsumers_bounds read
  | termination =>
    obtain ⟨name, read, rfl⟩ := Except.map_eq_ok_iff.mp assigned
    refine ⟨consumers, ?_, logLevel, logFormat⟩
    rintro other same
    cases same
    exact mem_of_readChoice read
  | logLevel =>
    obtain ⟨level, read, rfl⟩ := Except.map_eq_ok_iff.mp assigned
    refine ⟨consumers, termination, ?_, logFormat⟩
    rintro other same
    cases same
    exact mem_of_readChoice read
  | logFormat =>
    obtain ⟨format, read, rfl⟩ := Except.map_eq_ok_iff.mp assigned
    refine ⟨consumers, termination, logLevel, ?_⟩
    rintro other same
    cases same
    exact mem_of_readChoice read
  | input | output | configFile | logFile | produceDelay | consumeDelay | retryAttempts
    | retryDelay =>
    obtain ⟨given, -, rfl⟩ := Except.map_eq_ok_iff.mp assigned
    exact ⟨consumers, termination, logLevel, logFormat⟩

/-- A command line gives only what is on offer. -/
theorem offered_of_parse {line : List String} {args : Arguments} (parsed : parse line = .ok args) :
    args.Offered :=
  parse_induction ⟨nofun, nofun, nofun, nofun⟩ kept_offered parsed

end CommandLine

end SensorRelay.Settings
