import SensorRelay.Except
import SensorRelay.Proofs.Settings.CommandLine
import SensorRelay.Settings.Basic

/-! # Layers of settings

What settings are to come of a command line and a configuration file is said without computing
anything: `Layered` says of one setting which layer decides, and `Raised` says what can be objected.
Both are then compared with `resolve`, one check after the other.
-/

namespace SensorRelay.Settings

/-- The value of a setting. The command line decides, else the file, else there is a default. A layer
has its own way to say a value. -/
inductive Layered {α β γ : Type} (means : α → γ → Prop) (holds : β → γ → Prop) (standard : γ) :
    Option α → Option β → γ → Prop
  | line {given : α} {value : γ} (file : Option β) (said : means given value) :
    Layered means holds standard (some given) file value
  | file {given : β} {value : γ} (held : holds given value) :
    Layered means holds standard none (some given) value
  | standard : Layered means holds standard none none standard

/-- A setting whose value is given as it is. -/
def Chosen {α : Type} (standard : α) (line file : Option α) (value : α) : Prop :=
  Layered Eq Eq standard line file value

/-- A setting that need not have a value. -/
def Optional {α : Type} (line file : Option α) (value : Option α) : Prop :=
  Layered (fun given value => value = some given) (fun given value => value = some given) none line
    file value

/-- A delay, which is given in milliseconds. -/
def Delay (standard : Duration) (line file : Option Nat) (value : Duration) : Prop :=
  Layered (fun given value => value = .ofMilliseconds given)
    (fun given value => value = .ofMilliseconds given) standard line file value

def lowered (text : String) : String := text.map Char.toLower

/-- Names of formats are read in any case of their letters. -/
def ChosenFormat (line file : Option String) (value : Log.Format) : Prop :=
  Layered (fun text format => format.name = lowered text)
    (fun text format => format.name = lowered text) .text line file value

/-- A way of termination is a name on the command line only. -/
def ChosenTermination (line : Option String) (file : Option Termination) (value : Termination) :
    Prop :=
  Layered (fun text termination => termination.name = lowered text) Eq .close line file value

/-- The name of a level is taken in lower case from a file, but as it is from the command line. -/
def ChosenLevel (line file : Option String) (value : String) : Prop :=
  Layered Eq (fun text level => level = lowered text) "info" line file value

/-- Settings in which every layer has its say. -/
structure Merged (args : Arguments) (file : ConfigFile) (settings : Settings) : Prop where
  input : Chosen "sensor_data" args.input file.input settings.input
  output : Chosen "sensor_data_out.csv" args.output file.output settings.output
  append : settings.append = true ↔ args.append = true ∨ file.append = some true
  consumers : Chosen 2 args.consumers file.consumers settings.consumers
  termination : ChosenTermination args.termination file.termination settings.termination
  produceDelay : Delay .zero args.produceDelay file.produceDelay settings.produceDelay
  consumeDelay : Delay .zero args.consumeDelay file.consumeDelay settings.consumeDelay
  retryAttempts : Chosen 5 args.retryAttempts file.retryAttempts settings.retry.maxAttempts
  retryDelay : Delay (.ofMilliseconds 10) args.retryDelay file.retryDelay settings.retry.delay
  retryFactor : settings.retry.factor = 2
  retryCap : settings.retry.maxDelay = .ofSeconds 1 0
  logLimit : ChosenLevel args.logLevel file.logLevel settings.logLimit.name
  logFormat : ChosenFormat args.logFormat file.logFormat settings.logFormat
  logFile : Optional args.logFile file.logFile settings.logFile
  /-- The terminal has the last word on colours. -/
  color (terminal : Bool) :
    Chosen terminal args.colorChoice? file.color (settings.color.getD terminal)

/-- What can be wrong with settings. -/
inductive Objection
  | formatOfFile
  | termination
  | formatOfLine
  | noConsumers
  | level
  | samePaths
deriving DecidableEq

/-- When it is looked for. -/
def Objection.turn : Objection → Nat
  | .formatOfFile => 0
  | .termination => 1
  | .formatOfLine => 2
  | .noConsumers => 3
  | .level => 4
  | .samePaths => 5

/-- Objections against a command line and a file, with their words. -/
inductive Raised (args : Arguments) (file : ConfigFile) : Objection → String → Prop
  | formatOfFile {text : String} (given : file.logFormat = some text)
    (unknown : ∀ format : Log.Format, format.name ≠ lowered text) :
    Raised args file .formatOfFile
      s!"unknown log format '{lowered text}' (expected text, ext or json)"
  | termination {text : String} (given : args.termination = some text)
    (unknown : ∀ termination : Termination, termination.name ≠ lowered text) :
    Raised args file .termination
      s!"unknown termination '{lowered text}' (expected sentinel or close)"
  | formatOfLine {text : String} (given : args.logFormat = some text)
    (unknown : ∀ format : Log.Format, format.name ≠ lowered text) :
    Raised args file .formatOfLine
      s!"unknown log format '{lowered text}' (expected text, ext or json)"
  | noConsumers (chosen : Chosen 2 args.consumers file.consumers 0) :
    Raised args file .noConsumers "consumers must be at least 1"
  | level {level : String} (chosen : ChosenLevel args.logLevel file.logLevel level)
    (unknown : level ∉ CommandLine.levels) :
    Raised args file .level (s!"invalid log level '{level}' " ++
      "(expected one of trace, debug, info, warn, error, off)")
  | samePaths {input output : String} (source : Chosen "sensor_data" args.input file.input input)
    (target : Chosen "sensor_data_out.csv" args.output file.output output)
    (same : Files.samePath input output = true) :
    Raised args file .samePaths s!"input and output must be different files ({input})"

/-- Nothing is found wrong before a turn. -/
def Passed (args : Arguments) (file : ConfigFile) (turn : Nat) : Prop :=
  ∀ objection words, objection.turn < turn → ¬ Raised args file objection words

/-- The objection that is found first. -/
structure First (args : Arguments) (file : ConfigFile) (objection : Objection) (words : String) :
    Prop where
  raised : Raised args file objection words
  passed : Passed args file objection.turn

section Layers

variable {α β γ : Type} {means : α → γ → Prop} {holds : β → γ → Prop} {standard : γ}

/-- What a layer says has been read, if it says anything. -/
inductive ReadAs (means : α → γ → Prop) : Option α → Option γ → Prop
  | none : ReadAs means none none
  | some {given : α} {value : γ} (unique : ∀ other, means given other ↔ other = value) :
    ReadAs means (some given) (some value)

theorem ReadAs.map (f : α → γ) (given : Option α) :
    ReadAs (fun given value => value = f given) given (given.map f) := by
  cases given with
  | none => exact .none
  | some given => exact .some fun other => Iff.rfl

theorem ReadAs.self (given : Option α) : ReadAs Eq given given := by
  cases given with
  | none => exact .none
  | some given => exact .some fun other => eq_comm

/-- Layers that are read are merged by taking the first that says anything. -/
theorem layered_iff {line : Option α} {file : Option β} {lineValue fileValue : Option γ}
    (lineRead : ReadAs means line lineValue) (fileRead : ReadAs holds file fileValue) (value : γ) :
    Layered means holds standard line file value ↔
      value = (lineValue <|> fileValue).getD standard := by
  cases lineRead with
  | some unique =>
    refine Iff.trans ?_ (unique value)
    constructor
    · rintro ⟨_, said⟩
      exact said
    · exact .line file
  | none =>
    cases fileRead with
    | some unique =>
      refine Iff.trans ?_ (unique value)
      constructor
      · intro layered
        cases layered with
        | file held => exact held
      · exact .file
    | none =>
      constructor
      · rintro ⟨⟩
        rfl
      · rintro rfl
        exact .standard

end Layers

section Names

theorem lowered_eq_self {text : String} (lower : text.toList.map Char.toLower = text.toList) :
    lowered text = text := by
  apply String.toList_injective
  rw [lowered, String.toList_map, lower]

variable {γ : Type} {named : String → γ → Prop} {read : String → Except String γ}
  {words : String → String}

/-- A text is read as the one value that it names, or refused. -/
def Reads (named : String → γ → Prop) (read : String → Except String γ) (words : String → String)
    (text : String) : Prop :=
  (∃ value, read text = .ok value ∧ ∀ other, named text other ↔ other = value) ∨
    (∀ value, ¬ named text value) ∧ read text = .error (words text)

theorem reads_name (name : γ → String) (all : List γ) (complete : ∀ value, value ∈ all)
    (injective : ∀ value other, name value = name other → value = other) (text : String)
    (accepts : ∀ value, all.find? (fun value => name value == lowered text) = some value →
      read text = .ok value)
    (refuses : all.find? (fun value => name value == lowered text) = none →
      read text = .error (words text)) :
    Reads (fun text value => name value = lowered text) read words text := by
  cases found : all.find? fun value => name value == lowered text with
  | some value =>
    have named : name value = lowered text := by simpa using List.find?_some found
    refine .inl ⟨value, accepts value found, fun other => ⟨fun same => ?_, ?_⟩⟩
    · exact injective other value (same.trans named.symm)
    · rintro rfl
      exact named
  | none =>
    refine .inr ⟨fun value same => ?_, refuses found⟩
    have absent := List.find?_eq_none.mp found value (complete value)
    exact absent (by simpa using same)

theorem reads_format (text : String) :
    Reads (fun text format => format.name = lowered text) Log.Format.parse
      (fun text => s!"unknown log format '{lowered text}' (expected text, ext or json)") text := by
  refine reads_name Log.Format.name Log.Format.all ?_ ?_ text ?_ ?_
  · intro format
    cases format <;> decide
  · intro format other
    cases format <;> cases other <;> decide
  · intro format found
    have found : Log.Format.ofName? (text.map Char.toLower) = some format := found
    simp only [Log.Format.parse, found]
  · intro absent
    have absent : Log.Format.ofName? (text.map Char.toLower) = none := absent
    simp only [Log.Format.parse, absent, lowered]

theorem reads_termination (text : String) :
    Reads (fun text termination => termination.name = lowered text) Termination.parse
      (fun text => s!"unknown termination '{lowered text}' (expected sentinel or close)") text := by
  refine reads_name Termination.name Termination.all ?_ ?_ text ?_ ?_
  · intro way
    cases way <;> decide
  · intro way other
    cases way <;> cases other <;> decide
  · intro way found
    have found : Termination.ofName? (text.map Char.toLower) = some way := found
    simp only [Termination.parse, found]
  · intro absent
    have absent : Termination.ofName? (text.map Char.toLower) = none := absent
    simp only [Termination.parse, absent, lowered]

theorem ReadAs.exists {given : Option String} {value : Option γ} (read : ReadAs named given value)
    {text : String} (same : given = Option.some text) : ∃ value, named text value := by
  cases read with
  | none => cases same
  | @some given value unique =>
    cases same
    exact ⟨value, (unique value).mpr rfl⟩

theorem reads_mapM (each : ∀ text, Reads named read words text) (given : Option String) :
    (∃ text, given = some text ∧ (∀ value, ¬ named text value) ∧
        given.mapM read = .error (words text)) ∨
      ∃ value, given.mapM read = .ok value ∧ ReadAs named given value := by
  cases given with
  | none => exact .inr ⟨none, rfl, .none⟩
  | some text =>
    obtain ⟨value, ok, unique⟩ | ⟨unknown, refused⟩ := each text
    · refine .inr ⟨some value, ?_, .some unique⟩
      rw [Option.mapM_some, ok]
      rfl
    · refine .inl ⟨text, rfl, unknown, ?_⟩
      rw [Option.mapM_some, refused]
      rfl

/-- A level is read exactly if it is one of those that the command line offers. -/
theorem readLimit_cases (level : String) :
    (level ∈ CommandLine.levels ∧ ∃ limit, readLimit level = .ok limit ∧ limit.name = level) ∨
      level ∉ CommandLine.levels ∧
        readLimit level = .error (s!"invalid log level '{level}' " ++
          "(expected one of trace, debug, info, warn, error, off)") := by
  by_cases listed : level ∈ CommandLine.levels
  · refine .inl ⟨listed, ?_⟩
    simp only [CommandLine.levels, List.mem_cons, List.not_mem_nil, or_false] at listed
    rcases listed with rfl | rfl | rfl | rfl | rfl | rfl <;> exact ⟨_, rfl, rfl⟩
  · refine .inr ⟨listed, ?_⟩
    have unknown : Log.Limit.ofName? level = none := by
      have unnamed : Log.Level.ofName? level = none := by
        refine List.find?_eq_none.mpr fun known _ same => listed ?_
        rw [← eq_of_beq same]
        cases known <;> decide
      have on : level ≠ "off" := by
        rintro rfl
        exact listed (by decide)
      simp [Log.Limit.ofName?, unnamed, on]
    simp only [readLimit, unknown]

end Names

section Checks

variable {args : Arguments} {file : ConfigFile}

theorem turn_injective {objection other : Objection} (same : objection.turn = other.turn) :
    objection = other := by
  revert same
  cases objection <;> cases other <;> decide

theorem Passed.zero : Passed args file 0 := by
  intro objection words before
  omega

theorem Passed.next (objection : Objection) (passed : Passed args file objection.turn)
    (absent : ∀ words, ¬ Raised args file objection words) :
    Passed args file (objection.turn + 1) := by
  intro other words before
  by_cases earlier : other.turn < objection.turn
  · exact passed other words earlier
  · have same : other = objection := turn_injective (by omega)
    exact same ▸ absent words

/-- A check either finds its objection, or it is passed with a result. -/
def Examines (args : Arguments) (file : ConfigFile) (objection : Objection) {α : Type}
    (check : Except String α) (sound : α → Prop) : Prop :=
  (∃ words, Raised args file objection words ∧ check = .error words) ∨
    (∀ words, ¬ Raised args file objection words) ∧ ∃ result, check = .ok result ∧ sound result

theorem examines_name {γ : Type} {named : String → γ → Prop} {read : String → Except String γ}
    {words : String → String} (each : ∀ text, Reads named read words text) {given : Option String}
    {objection : Objection}
    (raise : ∀ text, given = some text → (∀ value, ¬ named text value) →
      Raised args file objection (words text))
    (only : ∀ words, Raised args file objection words →
      ∃ text, given = some text ∧ ∀ value, ¬ named text value) :
    Examines args file objection (given.mapM read) (ReadAs named given) := by
  obtain ⟨text, same, unknown, refused⟩ | ⟨value, ok, asValue⟩ := reads_mapM each given
  · exact .inl ⟨words text, raise text same unknown, refused⟩
  · refine .inr ⟨fun words raised => ?_, value, ok, asValue⟩
    obtain ⟨text, same, unknown⟩ := only words raised
    obtain ⟨value, named⟩ := asValue.exists same
    exact unknown value named

theorem examines_formatOfFile (args : Arguments) (file : ConfigFile) :
    Examines args file .formatOfFile (file.logFormat.mapM Log.Format.parse)
      (ReadAs (fun text format => format.name = lowered text) file.logFormat) := by
  refine examines_name reads_format (fun _ same unknown => .formatOfFile same unknown) ?_
  intro words raised
  cases raised with
  | formatOfFile same unknown => exact ⟨_, same, unknown⟩

theorem examines_termination (args : Arguments) (file : ConfigFile) :
    Examines args file .termination (args.termination.mapM Termination.parse)
      (ReadAs (fun text termination => termination.name = lowered text) args.termination) := by
  refine examines_name reads_termination (fun _ same unknown => .termination same unknown) ?_
  intro words raised
  cases raised with
  | termination same unknown => exact ⟨_, same, unknown⟩

theorem examines_formatOfLine (args : Arguments) (file : ConfigFile) :
    Examines args file .formatOfLine (args.logFormat.mapM Log.Format.parse)
      (ReadAs (fun text format => format.name = lowered text) args.logFormat) := by
  refine examines_name reads_format (fun _ same unknown => .formatOfLine same unknown) ?_
  intro words raised
  cases raised with
  | formatOfLine same unknown => exact ⟨_, same, unknown⟩

theorem chosen_iff {α : Type} {standard : α} (line file : Option α) (value : α) :
    Chosen standard line file value ↔ value = (line <|> file).getD standard :=
  layered_iff (.self line) (.self file) value

theorem optional_iff {α : Type} (line file : Option α) (value : Option α) :
    Optional line file value ↔ value = (line <|> file) := by
  refine (layered_iff (.map some line) (.map some file) value).trans ?_
  cases line <;> cases file <;> rfl

theorem delay_iff (standard : Nat) (line file : Option Nat) (value : Duration) :
    Delay (.ofMilliseconds standard) line file value ↔
      value = .ofMilliseconds ((line <|> file).getD standard) := by
  refine (layered_iff (.map _ line) (.map _ file) value).trans ?_
  cases line <;> cases file <;> rfl

theorem chosenLevel_iff (line file : Option String) (level : String) :
    ChosenLevel line file level ↔ level = (line <|> file.map lowered).getD "info" :=
  layered_iff (.self line) (.map lowered file) level

/-- The settings that come of names that have been read, when nothing is wrong with them. -/
def assemble (args : Arguments) (file : ConfigFile) (fileFormat format : Option Log.Format)
    (termination : Option Termination) (logLimit : Log.Limit) : Settings where
  input := (args.input <|> file.input).getD "sensor_data"
  output := (args.output <|> file.output).getD "sensor_data_out.csv"
  append := args.append || file.append.getD false
  consumers := (args.consumers <|> file.consumers).getD 2
  termination := (termination <|> file.termination).getD .close
  produceDelay := .ofMilliseconds ((args.produceDelay <|> file.produceDelay).getD 0)
  consumeDelay := .ofMilliseconds ((args.consumeDelay <|> file.consumeDelay).getD 0)
  retry :=
    { maxAttempts := (args.retryAttempts <|> file.retryAttempts).getD 5
      delay := ((args.retryDelay <|> file.retryDelay).map Duration.ofMilliseconds).getD
        (.ofMilliseconds 10)
      factor := 2
      maxDelay := .ofMilliseconds 1000 }
  logLimit
  logFormat := (format <|> fileFormat).getD .text
  logFile := args.logFile <|> file.logFile
  color := args.colorChoice? <|> file.color

/-- What is left of `merge` once the names of formats and of the way of termination are read. -/
theorem merge_of_read {fileFormat format : Option Log.Format} {termination : Option Termination}
    (readFile : file.logFormat.mapM Log.Format.parse = .ok fileFormat)
    (readTermination : args.termination.mapM Termination.parse = .ok termination)
    (readLine : args.logFormat.mapM Log.Format.parse = .ok format) :
    merge args file =
      if (args.consumers <|> file.consumers).getD 2 = 0 then .error "consumers must be at least 1"
      else (readLimit ((args.logLevel <|> file.logLevel.map lowered).getD "info")).bind
        fun logLimit =>
          let settings := assemble args file fileFormat format termination logLimit
          if Files.samePath settings.input settings.output then
            .error s!"input and output must be different files ({settings.input})"
          else .ok settings := by
  simp only [merge, readFile, readTermination, readLine, Except.bind_eq_bind, Except.ok_bind]
  rfl

theorem merged_assemble {fileFormat format : Option Log.Format} {termination : Option Termination}
    {limit : Log.Limit}
    (asFile : ReadAs (fun text format => format.name = lowered text) file.logFormat fileFormat)
    (asTermination : ReadAs (fun text termination => termination.name = lowered text)
      args.termination termination)
    (asLine : ReadAs (fun text format => format.name = lowered text) args.logFormat format)
    (named : limit.name = (args.logLevel <|> file.logLevel.map lowered).getD "info") :
    Merged args file (assemble args file fileFormat format termination limit) where
  input := (chosen_iff _ _ _).mpr rfl
  output := (chosen_iff _ _ _).mpr rfl
  append := by
    simp only [assemble, Bool.or_eq_true, Option.getD_eq_iff]
    simp
  consumers := (chosen_iff _ _ _).mpr rfl
  termination := (layered_iff asTermination (.self _) _).mpr rfl
  produceDelay := (delay_iff 0 _ _ _).mpr rfl
  consumeDelay := (delay_iff 0 _ _ _).mpr rfl
  retryAttempts := (chosen_iff _ _ _).mpr rfl
  retryDelay := by
    refine (delay_iff 10 _ _ _).mpr ?_
    exact Option.getD_map Duration.ofMilliseconds 10 (args.retryDelay <|> file.retryDelay)
  retryFactor := rfl
  retryCap := show Duration.ofMilliseconds 1000 = .ofSeconds 1 0 by decide
  logLimit := (chosenLevel_iff _ _ _).mpr named
  logFormat := (layered_iff asLine asFile _).mpr rfl
  logFile := (optional_iff _ _ _).mpr rfl
  color _ := (chosen_iff _ _ _).mpr rfl

/-- Settings that are refused are refused with the first objection, and all others are merged. -/
theorem merge_cases (args : Arguments) (file : ConfigFile) :
    (∃ objection words, First args file objection words ∧ merge args file = .error words) ∨
      (∀ objection words, ¬ Raised args file objection words) ∧
        ∃ settings, merge args file = .ok settings ∧ Merged args file settings := by
  -- Every check fails with its objection, or adds one to those that are known not to be raised.
  obtain ⟨words, raised, refused⟩ | ⟨absent, fileFormat, readFile, asFile⟩ :=
    examines_formatOfFile args file
  · refine .inl ⟨_, words, ⟨raised, .zero⟩, ?_⟩
    simp only [merge, refused, Except.bind_eq_bind, Except.error_bind]
  have passed := Passed.next .formatOfFile .zero absent
  obtain ⟨words, raised, refused⟩ | ⟨absent, termination, readTermination, asTermination⟩ :=
    examines_termination args file
  · refine .inl ⟨_, words, ⟨raised, passed⟩, ?_⟩
    simp only [merge, readFile, refused, Except.bind_eq_bind, Except.ok_bind, Except.error_bind]
  have passed := Passed.next .termination passed absent
  obtain ⟨words, raised, refused⟩ | ⟨absent, format, readLine, asLine⟩ :=
    examines_formatOfLine args file
  · refine .inl ⟨_, words, ⟨raised, passed⟩, ?_⟩
    simp only [merge, readFile, readTermination, refused, Except.bind_eq_bind, Except.ok_bind,
      Except.error_bind]
  have passed := Passed.next .formatOfLine passed absent
  rw [merge_of_read readFile readTermination readLine]
  split
  · next empty => exact .inl ⟨_, _, ⟨.noConsumers ((chosen_iff _ _ _).mpr empty.symm), passed⟩, rfl⟩
  next supplied =>
  have passed := Passed.next .noConsumers passed fun words raised => by
    cases raised with
    | noConsumers chosen => exact supplied ((chosen_iff _ _ _).mp chosen).symm
  obtain ⟨known, limit, readLevel, named⟩ | ⟨unknown, refused⟩ :=
    readLimit_cases ((args.logLevel <|> file.logLevel.map lowered).getD "info")
  case inr =>
    refine .inl ⟨_, _, ⟨.level ((chosenLevel_iff _ _ _).mpr rfl) unknown, passed⟩, ?_⟩
    rw [refused]
    rfl
  have passed := Passed.next .level passed fun words raised => by
    cases raised with
    | level chosen unknown => exact unknown ((chosenLevel_iff _ _ _).mp chosen ▸ known)
  rw [readLevel]
  have merged := merged_assemble asFile asTermination asLine named
  simp only [Except.ok_bind]
  split
  · next same =>
    exact .inl ⟨_, _, ⟨.samePaths merged.input merged.output same, passed⟩, rfl⟩
  next apart =>
  have passed := Passed.next .samePaths passed fun words raised => by
    cases raised with
    | samePaths input output same =>
      rw [(chosen_iff _ _ _).mp input, (chosen_iff _ _ _).mp output] at same
      exact apart same
  refine .inr ⟨fun objection words => passed objection words ?_, _, rfl, merged⟩
  cases objection <;> decide

/-- Nothing is wrong with settings that are accepted, and every layer has its say in them. -/
theorem merged_of_resolve {file : Option ConfigFile} {settings : Settings}
    (accepted : resolve args file = .ok settings) :
    (∀ objection words, ¬ Raised args (file.getD {}) objection words) ∧
      Merged args (file.getD {}) settings := by
  obtain ⟨_, words, _, refused⟩ | ⟨unobjected, merged, merges, layers⟩ :=
    merge_cases args (file.getD {})
  · rw [resolve, refused] at accepted
    cases accepted
  · rw [resolve, merges] at accepted
    cases accepted
    exact ⟨unobjected, layers⟩

theorem Raised.unique {objection : Objection} {words other : String}
    (raised : Raised args file objection words) (again : Raised args file objection other) :
    words = other := by
  cases raised with
  | formatOfFile given _ =>
    cases again with
    | formatOfFile same _ => rw [Option.some.inj (given.symm.trans same)]
  | termination given _ =>
    cases again with
    | termination same _ => rw [Option.some.inj (given.symm.trans same)]
  | formatOfLine given _ =>
    cases again with
    | formatOfLine same _ => rw [Option.some.inj (given.symm.trans same)]
  | noConsumers _ =>
    cases again
    rfl
  | level chosen _ =>
    cases again with
    | level same _ => rw [(chosenLevel_iff _ _ _).mp chosen, (chosenLevel_iff _ _ _).mp same]
  | samePaths input _ _ =>
    cases again with
    | samePaths same _ _ => rw [(chosen_iff _ _ _).mp input, (chosen_iff _ _ _).mp same]

theorem First.unique {objection another : Objection} {words other : String}
    (first : First args file objection words) (again : First args file another other) :
    words = other := by
  have after : ¬ another.turn < objection.turn := fun earlier =>
    first.passed another other earlier again.raised
  have before : ¬ objection.turn < another.turn := fun earlier =>
    again.passed objection words earlier first.raised
  have same : objection = another := turn_injective (by omega)
  subst same
  exact first.raised.unique again.raised

/-- Values on offer leave nothing to object to but the paths. -/
theorem samePaths_of_offered (offered : args.Offered) {objection : Objection} {words : String}
    (raised : Raised args {} objection words) : objection = .samePaths := by
  cases raised with
  | formatOfFile given _ => cases given
  | termination given unknown =>
    have listed := offered.termination _ given
    simp only [List.mem_cons, List.not_mem_nil, or_false] at listed
    rcases listed with rfl | rfl
    · exact absurd (lowered_eq_self (by decide)).symm (unknown .sentinel)
    · exact absurd (lowered_eq_self (by decide)).symm (unknown .close)
  | formatOfLine given unknown =>
    have listed := offered.logFormat _ given
    simp only [List.mem_cons, List.not_mem_nil, or_false] at listed
    rcases listed with rfl | rfl | rfl
    · exact absurd (lowered_eq_self (by decide)).symm (unknown .text)
    · exact absurd (lowered_eq_self (by decide)).symm (unknown .ext)
    · exact absurd (lowered_eq_self (by decide)).symm (unknown .json)
  | noConsumers chosen =>
    generalize given : args.consumers = line at chosen
    cases chosen with
    | line _ said =>
      have := offered.consumers _ given
      omega
  | level chosen unknown =>
    generalize given : args.logLevel = line at chosen
    cases chosen with
    | line _ said =>
      subst said
      exact absurd (offered.logLevel _ given) unknown
    | standard => exact absurd (by decide) unknown
  | samePaths => rfl

end Checks

/-- Settings are resolved layer by layer. They are refused exactly for the objection that is found
first, and otherwise every layer has its say. A command line gives only what is on offer, so without
a file nothing can be wrong but the paths. -/
theorem layers_resolved (args : Arguments) (file : Option ConfigFile) :
    (∀ fault, resolve args file = .error fault ↔
      ∃ objection words, First args (file.getD {}) objection words ∧ fault = .settings words) ∧
    ((∀ objection words, ¬ Raised args (file.getD {}) objection words) →
      ∃ settings, resolve args file = .ok settings ∧ Merged args (file.getD {}) settings) ∧
    (∀ line, CommandLine.parse line = .ok args → args.Offered) ∧
    (args.Offered → ∀ fault, resolve args none = .error fault →
      ∃ words, Raised args {} .samePaths words ∧ fault = .settings words) := by
  have refused_iff (file : Option ConfigFile) (fault : RelayFault) :
      resolve args file = .error fault ↔
        ∃ objection words, First args (file.getD {}) objection words ∧ fault = .settings words := by
    obtain ⟨objection, words, first, refused⟩ | ⟨nothing, settings, merges, _⟩ :=
      merge_cases args (file.getD {})
    · have resolved : resolve args file = .error (.settings words) := by
        rw [resolve, refused]
        rfl
      rw [resolved, Except.error.injEq]
      constructor
      · rintro rfl
        exact ⟨objection, words, first, rfl⟩
      · rintro ⟨other, others, again, rfl⟩
        rw [first.unique again]
    · have resolved : resolve args file = .ok settings := by
        rw [resolve, merges]
        rfl
      simp only [resolved, reduceCtorEq, false_iff]
      rintro ⟨objection, words, first, -⟩
      exact nothing objection words first.raised
  refine ⟨refused_iff file, fun nothing => ?_, fun line => CommandLine.offered_of_parse, ?_⟩
  · obtain ⟨objection, words, first, -⟩ | ⟨-, settings, merges, merged⟩ :=
      merge_cases args (file.getD {})
    · exact absurd first.raised (nothing objection words)
    · exact ⟨settings, by rw [resolve, merges]; rfl, merged⟩
  · intro offered fault refused
    obtain ⟨objection, words, first, same⟩ := (refused_iff none fault).mp refused
    have paths := samePaths_of_offered offered first.raised
    exact ⟨words, paths ▸ first.raised, same⟩

/-- A command line with one path for both files is refused, and one without any word is not. -/
theorem layers_resolved_without_file :
    CommandLine.parse ["-i", "data", "-o", "data"]
        = .ok { input := some "data", output := some "data" } ∧
      resolve { input := some "data", output := some "data" } none
        = .error (.settings "input and output must be different files (data)") ∧
      CommandLine.parse [] = .ok {} ∧ ∃ settings, resolve {} none = .ok settings ∧
        Merged {} {} settings := by
  have parsed : CommandLine.parse ["-i", "data", "-o", "data"]
      = .ok { input := some "data", output := some "data" } := rfl
  have parsedNothing : CommandLine.parse [] = .ok {} := rfl
  refine ⟨parsed, ?_, parsedNothing, ?_⟩
  · have offered := (layers_resolved _ none).2.2.1 _ parsed
    have raised : Raised { input := some "data", output := some "data" } {} .samePaths
        "input and output must be different files (data)" := by
      have same : Files.samePath "data" "data" = true := by decide
      exact .samePaths ((chosen_iff _ _ _).mpr rfl) ((chosen_iff _ _ _).mpr rfl) same
    have passed : Passed { input := some "data", output := some "data" } {} 5 := by
      intro other words before again
      rw [samePaths_of_offered offered again] at before
      exact absurd before (by decide)
    exact ((layers_resolved _ none).1 _).mpr ⟨.samePaths, _, ⟨raised, passed⟩, rfl⟩
  · have offered := (layers_resolved _ none).2.2.1 _ parsedNothing
    refine (layers_resolved {} none).2.1 fun objection words raised => ?_
    have paths := samePaths_of_offered offered raised
    subst paths
    cases raised with
    | samePaths input output same =>
      rw [(chosen_iff _ _ _).mp input, (chosen_iff _ _ _).mp output] at same
      revert same
      decide

end SensorRelay.Settings
