import SensorRelay.Except
import SensorRelay.Proofs.Settings.Layers

/-! # The command line has the last word

Values of a configuration file that the command line overrides are not looked at, whether they make
sense or not: a number of consumers, a level or a path is judged only once it is chosen. So two
files that say the same wherever the command line is silent come to the same settings, or are
refused for the same reason (`merge_congr`). The name of a log format is the exception. It is read
with the file, before the command line is asked, so a file with a format that does not exist is
refused in any case.
-/

namespace SensorRelay.Settings

/-- Two configuration files say the same wherever a command line is silent. -/
structure Agree (args : Arguments) (file other : ConfigFile) : Prop where
  input : args.input = none → file.input = other.input
  output : args.output = none → file.output = other.output
  append : args.append = false → file.append = other.append
  consumers : args.consumers = none → file.consumers = other.consumers
  termination : args.termination = none → file.termination = other.termination
  produceDelay : args.produceDelay = none → file.produceDelay = other.produceDelay
  consumeDelay : args.consumeDelay = none → file.consumeDelay = other.consumeDelay
  retryAttempts : args.retryAttempts = none → file.retryAttempts = other.retryAttempts
  retryDelay : args.retryDelay = none → file.retryDelay = other.retryDelay
  logLevel : args.logLevel = none → file.logLevel = other.logLevel
  logFormat : args.logFormat = none → file.logFormat = other.logFormat
  logFile : args.logFile = none → file.logFile = other.logFile
  color : args.color = false → args.noColor = false → file.color = other.color

/-- The log format that a file names, if it names one, exists. -/
def Readable (file : ConfigFile) : Prop :=
  ∀ text, file.logFormat = some text → ∃ format : Log.Format, format.name = lowered text

section Congruence

variable {args : Arguments} {file other : ConfigFile}

/-- What a layer says counts only if the one above it is silent. -/
theorem orElse_congr {α : Type} {line value another : Option α}
    (silent : line = none → value = another) : (line <|> value) = (line <|> another) := by
  cases line with
  | none => exact silent rfl
  | some _ => rfl

theorem colorChoice?_eq_none : args.colorChoice? = none ↔
    args.color = false ∧ args.noColor = false := by
  unfold Arguments.colorChoice?
  cases args.color <;> cases args.noColor <;> decide

/-- A layer that is read is silent if it was. -/
theorem eq_none_of_mapM {α : Type} {read : String → Except String α} {given : Option String}
    (ok : given.mapM read = .ok none) : given = none := by
  cases given with
  | none => rfl
  | some text => cases found : read text <;> simp [found] at ok

/-- A format that exists is read, and any other one is known not to exist. -/
theorem readable_or_unknown (file : ConfigFile) :
    (Readable file ∧ ∃ format, file.logFormat.mapM Log.Format.parse = .ok format) ∨
      ∃ text, file.logFormat = some text ∧ ∀ format : Log.Format, format.name ≠ lowered text := by
  obtain ⟨text, given, unknown, _⟩ | ⟨format, ok, asFormat⟩ :=
    reads_mapM reads_format file.logFormat
  · exact .inr ⟨text, given, unknown⟩
  · exact .inl ⟨fun _ given => asFormat.exists given, format, ok⟩

theorem exists_format (readable : Readable file) :
    ∃ format, file.logFormat.mapM Log.Format.parse = .ok format := by
  obtain ⟨_, read⟩ | ⟨text, given, unknown⟩ := readable_or_unknown file
  · exact read
  · obtain ⟨format, named⟩ := readable text given
    exact (unknown format named).elim

/-- Settings are assembled from what is chosen only. -/
theorem assemble_congr (agree : Agree args file other)
    {fileFormat otherFormat format : Option Log.Format} {termination : Option Termination}
    (formats : format = none → fileFormat = otherFormat)
    (terminations : termination = none → args.termination = none) (limit : Log.Limit) :
    assemble args file fileFormat format termination limit =
      assemble args other otherFormat format termination limit := by
  have appended : (args.append || file.append.getD false) =
      (args.append || other.append.getD false) := by
    cases set : args.append with
    | true => rfl
    | false => rw [agree.append set]
  have terminated := orElse_congr fun silent => agree.termination (terminations silent)
  have coloured := orElse_congr fun silent =>
    have ⟨dark, plain⟩ := colorChoice?_eq_none.mp silent
    agree.color dark plain
  simp only [assemble, appended, terminated, coloured, orElse_congr formats,
    orElse_congr agree.input, orElse_congr agree.output, orElse_congr agree.consumers,
    orElse_congr agree.produceDelay, orElse_congr agree.consumeDelay,
    orElse_congr agree.retryAttempts, orElse_congr agree.retryDelay, orElse_congr agree.logFile]

/-- Files with formats that exist are merged alike if they agree. -/
theorem merge_congr (agree : Agree args file other) (readable : Readable file)
    (readableToo : Readable other) : merge args file = merge args other := by
  obtain ⟨fileFormat, readFile⟩ := exists_format readable
  obtain ⟨otherFormat, readOther⟩ := exists_format readableToo
  cases readTermination : args.termination.mapM Termination.parse with
  | error words =>
    simp only [merge, readFile, readOther, readTermination, Except.bind_eq_bind, Except.ok_bind,
      Except.error_bind]
  | ok termination =>
    cases readLine : args.logFormat.mapM Log.Format.parse with
    | error words =>
      simp only [merge, readFile, readOther, readTermination, readLine, Except.bind_eq_bind,
        Except.ok_bind, Except.error_bind]
    | ok format =>
      have formats : format = none → fileFormat = otherFormat := by
        rintro rfl
        rw [agree.logFormat (eq_none_of_mapM readLine), readOther, Except.ok.injEq] at readFile
        exact readFile.symm
      have terminations : termination = none → args.termination = none := by
        rintro rfl
        exact eq_none_of_mapM readTermination
      have levels : (args.logLevel <|> file.logLevel.map lowered) =
          (args.logLevel <|> other.logLevel.map lowered) :=
        orElse_congr fun silent => by rw [agree.logLevel silent]
      rw [merge_of_read readFile readTermination readLine,
        merge_of_read readOther readTermination readLine, orElse_congr agree.consumers, levels]
      simp only [assemble_congr agree formats terminations]

/-- A file with a format that does not exist is refused first of all. -/
theorem merge_of_unreadable {text : String} (given : file.logFormat = some text)
    (unknown : ∀ format : Log.Format, format.name ≠ lowered text) :
    merge args file =
      .error s!"unknown log format '{lowered text}' (expected text, ext or json)" := by
  obtain ⟨value, _, unique⟩ | ⟨_, refused⟩ := reads_format text
  · exact (unknown value ((unique value).mpr rfl)).elim
  · simp only [merge, given, Option.mapM_some, refused, Except.map_eq_map, Except.error_map,
      Except.bind_eq_bind, Except.error_bind]

end Congruence

/-- Whatever the command line says, two files that say the same wherever it is silent, and whatever
they say elsewhere, come to the same settings or to the same fault, if the log formats that they
name exist or are the same. A file with a log format that does not exist is refused for that, be
there another one on the command line or not. -/
theorem line_has_last_word (args : Arguments) (file other : ConfigFile) :
    (Agree args file other →
      file.logFormat = other.logFormat ∨ Readable file ∧ Readable other →
      resolve args (some file) = resolve args (some other)) ∧
    ∀ text, file.logFormat = some text → (∀ format : Log.Format, format.name ≠ lowered text) →
      resolve args (some file) = .error
        (.settings s!"unknown log format '{lowered text}' (expected text, ext or json)") := by
  refine ⟨fun agree formats => ?_, fun text given unknown => ?_⟩
  · suffices merged : merge args file = merge args other by
      simp only [resolve, Option.getD_some, merged]
    obtain ⟨readable, _⟩ | ⟨text, given, unknown⟩ := readable_or_unknown file
    · have readableToo : Readable other :=
        formats.elim (fun same text given => readable text (same.trans given)) And.right
      exact merge_congr agree readable readableToo
    · obtain same | ⟨readable, _⟩ := formats
      · rw [merge_of_unreadable given unknown, merge_of_unreadable (same.symm.trans given) unknown]
      · obtain ⟨format, named⟩ := readable text given
        exact (unknown format named).elim
  · rw [resolve, Option.getD_some, merge_of_unreadable given unknown]
    rfl

private theorem unknown_xml (format : Log.Format) : format.name ≠ lowered "xml" := by
  rw [lowered_eq_self (by decide)]
  cases format <;> decide

/-- No consumers and a level that does not exist do no harm where the command line overrides them. A
format that does not exist is refused. -/
theorem line_has_last_word_over_nonsense :
    Agree { consumers := some 3, logLevel := some "debug", append := true }
        { consumers := some 0, logLevel := some "loud", input := some "data" }
        { append := some true, input := some "data" } ∧
      resolve { consumers := some 3, logLevel := some "debug", append := true }
          (some { consumers := some 0, logLevel := some "loud", input := some "data" }) =
        resolve { consumers := some 3, logLevel := some "debug", append := true }
          (some { append := some true, input := some "data" }) ∧
      resolve { logFormat := some "text" } (some { logFormat := some "xml" }) = .error
        (.settings "unknown log format 'xml' (expected text, ext or json)") := by
  have agree : Agree { consumers := some 3, logLevel := some "debug", append := true }
      { consumers := some 0, logLevel := some "loud", input := some "data" }
      { append := some true, input := some "data" } := by
    constructor <;> simp
  exact ⟨agree, (line_has_last_word _ _ _).1 agree (.inl rfl),
    ((line_has_last_word _ _ {}).2 "xml" rfl unknown_xml).trans (by
      rw [lowered_eq_self (by decide)]
      rfl)⟩

/-- A format that does not exist is refused although the command line overrides it, and without it
nothing is wrong. -/
theorem format_judged_before_override :
    Agree { logFormat := some "text" } { logFormat := some "xml" } {} ∧
      resolve { logFormat := some "text" } (some { logFormat := some "xml" }) ≠
        resolve { logFormat := some "text" } (some {}) := by
  refine ⟨by constructor <;> simp, ?_⟩
  have offered : Arguments.Offered { logFormat := some "text" } := by constructor <;> simp
  obtain ⟨objection, words, first, _⟩ | ⟨_, settings, merged, _⟩ :=
    merge_cases { logFormat := some "text" } {}
  · have paths := samePaths_of_offered offered first.raised
    subst paths
    cases first.raised with
    | samePaths input output same =>
      rw [(chosen_iff _ _ _).mp input, (chosen_iff _ _ _).mp output] at same
      exact absurd same (by decide)
  · have refused : merge { logFormat := some "text" } { logFormat := some "xml" } = .error _ :=
      merge_of_unreadable rfl unknown_xml
    rw [resolve, resolve, Option.getD_some, Option.getD_some, refused, merged]
    intro same
    cases same

end SensorRelay.Settings
