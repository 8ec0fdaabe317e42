import ConferenceBridge.Logging.Logger
import ConferenceBridge.Proofs.Logging.Directive

/-!
# Configuring the logger

A configuration sets the level, adds a handler if there is none, and gives all handlers a format,
and it fails at an unknown level or at a format that is not accepted. What it did before it failed
stays. At no stage does it change how many handlers the logger may have, and this is all that a
later configuration depends on, so the last one that succeeds decides.
-/

namespace ConferenceBridge

/-! ### Levels by name -/

namespace Logging

/-- A level is known by the names that are listed for it. -/
theorem levelOfName?_eq_some_iff {name : String} {level : Level} :
    levelOfName? name = some level ↔ (name, level) ∈ levelNames := by
  constructor
  · intro h
    obtain ⟨entry, hentry, rfl⟩ := Option.map_eq_some_iff.1 h
    have hname : entry.1 = name := by simpa using List.find?_some hentry
    exact hname ▸ List.mem_of_find?_eq_some hentry
  · intro h
    have hall : ∀ entry ∈ levelNames, levelOfName? entry.1 = some entry.2 := by decide
    exact hall (name, level) h

/-- No level is known by any other name. -/
theorem levelOfName?_eq_none_iff {name : String} :
    levelOfName? name = none ↔ ∀ level, (name, level) ∉ levelNames := by
  simp only [Option.eq_none_iff_forall_ne_some, ne_eq, levelOfName?_eq_some_iff]

/-- A name is listed with one level only. -/
theorem mem_levelNames_iff {name : String} {level other : Level} (h : (name, level) ∈ levelNames) :
    (name, other) ∈ levelNames ↔ other = level := by
  rw [← levelOfName?_eq_some_iff] at h
  rw [← levelOfName?_eq_some_iff, h, Option.some_inj, eq_comm]

end Logging

/-- Settings that were read name the level of their source without the blanks around it and in
capital letters, or `INFO` if there is none. -/
theorem Settings.logLevel_of_load {sources : Settings.Sources} {settings : Settings}
    (h : Settings.load sources = .ok settings) :
    sources.find? "log_level" = none ∧ settings.logLevel = "INFO" ∨
      ∃ raw, sources.find? "log_level" = some (.string raw) ∧
        settings.logLevel = Settings.normalizedText raw := by
  have hvalid : Settings.fields.check sources.find? = .valid settings := by
    rw [load] at h
    cases hcheck : Settings.fields.check sources.find? with
    | valid value =>
      rw [hcheck] at h
      rw [Except.ok.inj h]
    | invalid faults =>
      rw [hcheck] at h
      cases h
  obtain ⟨⟨environment, logLevel, rest⟩, hfields, rfl⟩ := Checked.map_eq_valid_iff.1 hvalid
  obtain ⟨hlevel, _⟩ := Checked.both_eq_valid_iff.1 (Checked.both_eq_valid_iff.1 hfields).2
  have hread := Checked.under_eq_valid_iff.1 hlevel
  -- The field is read from the first place that has it.
  change (Field.withDefault "log_level" normalized "INFO").check (sources.find? "log_level") =
    .valid logLevel at hread
  cases hfound : sources.find? "log_level" with
  | none =>
    rw [hfound] at hread
    cases hread
    exact Or.inl ⟨rfl, rfl⟩
  | some json =>
    rw [hfound] at hread
    obtain ⟨raw, hraw, rfl⟩ := Checked.map_eq_valid_iff.1 hread
    cases json with
    | string text =>
      cases hraw
      exact Or.inr ⟨raw, rfl, rfl⟩
    | _ => cases hraw

namespace Logging.Logger

variable {logger : Logger} {settings : Settings}

/-! ### One configuration -/

/-- What a configuration does: nothing if the level is unknown, less than it should if the format
is not accepted, or all of it. -/
theorem configure_cases (logger : Logger) (settings : Settings) :
    (∀ level, (settings.logLevel, level) ∉ levelNames) ∧
        logger.configure settings = (logger, .error (.unknownLevel settings.logLevel)) ∨
      ∃ level, (settings.logLevel, level) ∈ levelNames ∧
        (¬IsFormat settings.logFormat ∧ logger.configure settings =
            (logger.prepare level, .error (.invalidFormat settings.logFormat)) ∨
          IsFormat settings.logFormat ∧ logger.configure settings =
            ((logger.prepare level).setFormat
              (if settings.logFormat = "" then messageFormat else settings.logFormat),
              .ok ())) := by
  unfold configure
  cases hlevel : levelOfName? settings.logLevel with
  | none => exact Or.inl ⟨levelOfName?_eq_none_iff.1 hlevel, rfl⟩
  | some level =>
    refine Or.inr ⟨level, levelOfName?_eq_some_iff.1 hlevel, ?_⟩
    by_cases hformat : IsFormat settings.logFormat
    · exact Or.inr ⟨hformat, by simp only [acceptedFormat?_of_isFormat hformat]⟩
    · exact Or.inl ⟨hformat, by simp only [acceptedFormat?_of_not_isFormat hformat]⟩

/-- A logger that is prepared has the level that it was prepared with. -/
@[simp] theorem level_prepare (logger : Logger) (level : Level) :
    (logger.prepare level).level = level := by
  unfold prepare
  dsimp only
  split <;> rfl

/-- A logger that is prepared has its handlers, or a first one without a format. -/
@[simp] theorem handlers_prepare (logger : Logger) (level : Level) :
    (logger.prepare level).handlers =
      if logger.handlers = [] then [none] else logger.handlers := by
  unfold prepare
  dsimp only
  cases logger.handlers <;> simp [addHandler]

/-- A logger that is prepared with its own level is the same, provided that it has a handler. -/
theorem prepare_eq_self_iff {level : Level} :
    logger.prepare level = logger ↔ logger.handlers ≠ [] ∧ logger.level = level := by
  have hparts : logger.prepare level = logger ↔
      (logger.prepare level).level = logger.level ∧
        (logger.prepare level).handlers = logger.handlers := by
    cases hprepared : logger.prepare level
    cases logger
    simp
  rw [hparts, level_prepare, handlers_prepare]
  by_cases hnone : logger.handlers = []
  · simp [hnone]
  · simp [hnone, eq_comm]

/-- A configuration fails at a level without a name, and leaves the logger as it was, or at a
format that is not accepted. Then the logger has the level that was named, and the handlers that it
had with their formats, or one without a format if it had none; so it is as it was just if it had a
handler and that level. -/
theorem configure_failing (logger : Logger) (settings : Settings) :
    let configured := (logger.configure settings).1
    let outcome := (logger.configure settings).2
    (outcome = .error (.unknownLevel settings.logLevel) ↔
        ∀ level, (settings.logLevel, level) ∉ levelNames) ∧
      (outcome = .error (.invalidFormat settings.logFormat) ↔
        (∃ level, (settings.logLevel, level) ∈ levelNames) ∧ ¬IsFormat settings.logFormat) ∧
      ∀ error, outcome = .error error →
        error = .unknownLevel settings.logLevel ∧ configured = logger ∨
          error = .invalidFormat settings.logFormat ∧
            (settings.logLevel, configured.level) ∈ levelNames ∧
            configured.handlers = (if logger.handlers = [] then [none] else logger.handlers) ∧
            (configured = logger ↔
              logger.handlers ≠ [] ∧ (settings.logLevel, logger.level) ∈ levelNames) := by
  intro configured outcome
  rcases logger.configure_cases settings with ⟨hunknown, hresult⟩ |
    ⟨level, hlevel, ⟨hformat, hresult⟩ | ⟨hformat, hresult⟩⟩
  · have hconfigured : configured = logger := congrArg Prod.fst hresult
    have houtcome : outcome = .error (.unknownLevel settings.logLevel) := congrArg Prod.snd hresult
    rw [houtcome]
    refine ⟨⟨fun _ => hunknown, fun _ => rfl⟩, ⟨fun h => ?_, fun h => ?_⟩, fun error h => ?_⟩
    · cases h
    · obtain ⟨⟨level, hlevel⟩, _⟩ := h
      exact absurd hlevel (hunknown level)
    · cases h
      exact Or.inl ⟨rfl, hconfigured⟩
  · have hconfigured : configured = logger.prepare level := congrArg Prod.fst hresult
    have houtcome : outcome = .error (.invalidFormat settings.logFormat) :=
      congrArg Prod.snd hresult
    rw [houtcome]
    refine ⟨⟨fun h => ?_, fun h => absurd hlevel (h level)⟩,
      ⟨fun _ => ⟨⟨level, hlevel⟩, hformat⟩, fun _ => rfl⟩, fun error h => ?_⟩
    · cases h
    · cases h
      rw [hconfigured, level_prepare, handlers_prepare, prepare_eq_self_iff]
      refine Or.inr ⟨rfl, hlevel, rfl, ?_⟩
      rw [mem_levelNames_iff hlevel]
  · have houtcome : outcome = .ok () := congrArg Prod.snd hresult
    rw [houtcome]
    refine ⟨⟨fun h => ?_, fun h => absurd hlevel (h level)⟩, ⟨fun h => ?_, fun h => ?_⟩,
      fun _ h => ?_⟩
    · cases h
    · cases h
    · exact absurd hformat h.2
    · cases h

/-- A format without directives is refused after the level was set and a handler was added. -/
theorem configure_changes_before_failing :
    let settings : Settings := { logLevel := "DEBUG", logFormat := "plain" }
    (fresh.configure settings).2 = .error (.invalidFormat "plain") ∧
      (fresh.configure settings).1 ≠ fresh := by
  decide +kernel

/-- The same level as before, and a format that stops short of a conversion. -/
theorem configure_failing_at_same_level :
    let logger : Logger := ⟨30, [none, some "%(name)s"]⟩
    let settings : Settings := { logLevel := "WARN", logFormat := "%(message)" }
    (logger.configure settings).2 = .error (.invalidFormat "%(message)") ∧
      (logger.configure settings).1 = logger := by
  intro logger settings
  have houtcome : (logger.configure settings).2 = .error (.invalidFormat "%(message)") := by
    decide +kernel
  refine ⟨houtcome, ?_⟩
  rcases (configure_failing logger settings).2.2 _ houtcome with ⟨hother, _⟩ | ⟨_, _, _, hsame⟩
  · cases hother
  · exact hsame.2 (by decide)

/-! ### One configuration after the other -/

/-- The logger with a format given to the first handlers. -/
def formatFirst (logger : Logger) (format : String) (count : Nat) : Logger :=
  { logger with
    handlers := (logger.handlers.take count).map (fun _ => some format) ++
      logger.handlers.drop count }

/-- The logger after each step of a configuration: it gets the level, a handler if it has none, and
the format for one handler after the other. -/
def stages (logger : Logger) (settings : Settings) : List Logger :=
  match levelOfName? settings.logLevel with
  | none => []
  | some level =>
    let prepared := logger.prepare level
    { logger with level } :: match acceptedFormat? settings.logFormat with
      | none => [prepared]
      | some format =>
        (List.range (prepared.handlers.length + 1)).map (prepared.formatFirst format)

/-- The logger after several configurations, whether they fail or not. -/
def configureAll (logger : Logger) (calls : List Settings) : Logger :=
  calls.foldl (fun logger settings => (logger.configure settings).1) logger

/-- The last of several configurations meets what the others have left. -/
theorem configureAll_concat (logger : Logger) (calls : List Settings) (settings : Settings) :
    logger.configureAll (calls ++ [settings]) =
      ((logger.configureAll calls).configure settings).1 :=
  List.foldl_append

/-- The logger at all times while it is configured several times. -/
def history (logger : Logger) : List Settings → List Logger
  | [] => [logger]
  | settings :: later =>
    logger :: logger.stages settings ++ (logger.configure settings).1.history later

/-- Given to all handlers, the format is the one that is set. -/
theorem formatFirst_length (logger : Logger) (format : String) :
    logger.formatFirst format logger.handlers.length = logger.setFormat format := by
  rw [formatFirst, List.take_length, List.drop_length, List.append_nil, setFormat]

/-- A configuration ends with its last stage, or has none. -/
theorem getLast?_stages (logger : Logger) (settings : Settings) :
    (logger :: logger.stages settings).getLast? = some (logger.configure settings).1 := by
  unfold stages configure
  cases levelOfName? settings.logLevel with
  | none => rfl
  | some level =>
    cases acceptedFormat? settings.logFormat with
    | none => rfl
    | some format =>
      dsimp only
      rw [List.range_succ, List.map_append, List.map_singleton, formatFirst_length,
        ← List.cons_append, ← List.cons_append, List.getLast?_append]
      rfl

/-- The logger that is there in the end is the last one in its history. -/
theorem getLast?_history (logger : Logger) (calls : List Settings) :
    (logger.history calls).getLast? = some (logger.configureAll calls) := by
  induction calls generalizing logger with
  | nil => rfl
  | cons settings later ih =>
    rw [history, List.getLast?_append, ih, Option.some_or]
    rfl

/-- The number of handlers that a logger has once one was added if there was none. -/
def capacity (logger : Logger) : Nat := max 1 logger.handlers.length

/-- A logger that is prepared has as many handlers as it may have. -/
theorem length_handlers_prepare (logger : Logger) (level : Level) :
    (logger.prepare level).handlers.length = logger.capacity := by
  rw [handlers_prepare, capacity]
  cases logger.handlers <;> simp

/-- A logger that is prepared may have as many handlers as before. -/
theorem capacity_prepare (logger : Logger) (level : Level) :
    (logger.prepare level).capacity = logger.capacity := by
  rw [capacity, length_handlers_prepare, capacity, ← Nat.max_assoc, Nat.max_self]

/-- Giving some handlers a format makes no difference to how many there may be. -/
theorem capacity_formatFirst (logger : Logger) (format : String) (count : Nat) :
    (logger.formatFirst format count).capacity = logger.capacity := by
  rw [capacity, capacity, formatFirst, List.length_append, List.length_map,
    ← List.length_append, List.take_append_drop]

/-- No stage of a configuration makes a difference to how many handlers there may be. -/
theorem capacity_of_mem_stages {stage : Logger} (h : stage ∈ logger :: logger.stages settings) :
    stage.capacity = logger.capacity := by
  rcases List.mem_cons.1 h with rfl | hstage
  · rfl
  · unfold stages at hstage
    cases hlevel : levelOfName? settings.logLevel with
    | none =>
      rw [hlevel] at hstage
      cases hstage
    | some level =>
      simp only [hlevel] at hstage
      rcases List.mem_cons.1 hstage with rfl | hlater
      · rfl
      · cases hformat : acceptedFormat? settings.logFormat with
        | none =>
          simp only [hformat] at hlater
          rw [List.mem_singleton.1 hlater, capacity_prepare]
        | some format =>
          simp only [hformat] at hlater
          obtain ⟨count, _, rfl⟩ := List.mem_map.1 hlater
          rw [capacity_formatFirst, capacity_prepare]

/-- A configuration makes no difference to how many handlers there may be, since it leaves the
logger as it is at one of its stages. -/
theorem capacity_configure (logger : Logger) (settings : Settings) :
    (logger.configure settings).1.capacity = logger.capacity :=
  capacity_of_mem_stages (List.mem_of_getLast? (logger.getLast?_stages settings))

/-- At no time is there a difference to how many handlers there may be. -/
theorem capacity_of_mem_history {moment : Logger} {calls : List Settings}
    (h : moment ∈ logger.history calls) : moment.capacity = logger.capacity := by
  induction calls generalizing logger with
  | nil => rw [List.mem_singleton.1 h]
  | cons settings later ih =>
    rcases List.mem_append.1 h with hnow | hlater
    · exact capacity_of_mem_stages hnow
    · exact (ih hlater).trans (logger.capacity_configure settings)

/-- No configurations make a difference to how many handlers there may be. -/
theorem capacity_configureAll (logger : Logger) (calls : List Settings) :
    (logger.configureAll calls).capacity = logger.capacity :=
  capacity_of_mem_history (List.mem_of_getLast? (logger.getLast?_history calls))

/-- At no time are there more handlers than there may be. -/
theorem length_handlers_of_mem_history {moment : Logger} {calls : List Settings}
    (h : moment ∈ logger.history calls) : moment.handlers.length ≤ logger.capacity := by
  have hbound : moment.handlers.length ≤ moment.capacity := Nat.le_max_right _ _
  exact hbound.trans_eq (capacity_of_mem_history h)

/-- A configuration that succeeds names a level and has a format that is accepted. -/
theorem exists_of_configure_ok (h : (logger.configure settings).2 = .ok ()) :
    ∃ level, (settings.logLevel, level) ∈ levelNames ∧ IsFormat settings.logFormat := by
  rcases logger.configure_cases settings with ⟨_, hresult⟩ |
    ⟨level, hlevel, ⟨_, hresult⟩ | ⟨hformat, _⟩⟩
  · rw [hresult] at h
    cases h
  · rw [hresult] at h
    cases h
  · exact ⟨level, hlevel, hformat⟩

/-- What comes of a configuration that succeeds depends on the logger by the number of its handlers
alone. -/
theorem configure_of_isFormat (logger : Logger) {level : Level}
    (hlevel : (settings.logLevel, level) ∈ levelNames) (hformat : IsFormat settings.logFormat) :
    logger.configure settings =
      (⟨level, List.replicate logger.capacity
        (some (if settings.logFormat = "" then messageFormat else settings.logFormat))⟩,
        .ok ()) := by
  rcases logger.configure_cases settings with ⟨hunknown, _⟩ |
    ⟨other, hother, ⟨hrefused, _⟩ | ⟨_, hresult⟩⟩
  · exact absurd hlevel (hunknown level)
  · exact absurd hformat hrefused
  · obtain rfl := (mem_levelNames_iff hlevel).1 hother
    rw [hresult, setFormat, level_prepare, List.map_const', length_handlers_prepare]

/-- As many handlers as there may be are the handlers that there are, or a first one. -/
theorem replicate_capacity (logger : Logger) (format : String) :
    List.replicate logger.capacity (some format) =
      if logger.handlers = [] then [some format]
      else logger.handlers.map fun _ => some format := by
  rw [capacity, List.map_const']
  cases logger.handlers <;> simp

/-- Of several configurations that succeed or fail, the last one decides if it succeeds: the logger
is as if it had been configured only once. It has the level that is named, in any case of letters
and with blanks around it where the settings were read, and its handlers, or a first one if it had
none, have the format. An empty format is the one that shows the message alone. Whether or not
configurations succeed, at no time are there more handlers than at the start, or than one if there
were none. -/
theorem last_configuration_wins (logger : Logger) (calls : List Settings) (settings : Settings) :
    let before := logger.configureAll calls
    let final := logger.configureAll (calls ++ [settings])
    let format := if settings.logFormat = "" then "%(message)s" else settings.logFormat
    ((before.configure settings).2 = .ok () →
      (logger.configure settings).2 = .ok () ∧ final = (logger.configure settings).1 ∧
        (settings.logLevel, final.level) ∈ levelNames ∧
        (∀ sources raw, Settings.load sources = .ok settings →
          sources.find? "log_level" = some (.string raw) →
          (Settings.normalizedText raw, final.level) ∈ levelNames) ∧
        final.handlers =
          if logger.handlers = [] then [some format]
          else logger.handlers.map fun _ => some format) ∧
      (logger.history (calls ++ [settings])).getLast? = some final ∧
      ∀ moment ∈ logger.history (calls ++ [settings]),
        moment.handlers.length ≤ max 1 logger.handlers.length := by
  intro before final format
  refine ⟨fun hlast => ?_, logger.getLast?_history _, fun _ => length_handlers_of_mem_history⟩
  obtain ⟨level, hlevel, hformat⟩ := exists_of_configure_ok hlast
  have honce := logger.configure_of_isFormat hlevel hformat
  have hfinal : final = (logger.configure settings).1 := by
    have hlater : final = (before.configure settings).1 := logger.configureAll_concat _ _
    rw [hlater, before.configure_of_isFormat hlevel hformat, honce, capacity_configureAll]
  rw [hfinal, honce]
  refine ⟨rfl, rfl, hlevel, fun sources raw hload hraw => ?_, logger.replicate_capacity _⟩
  rcases Settings.logLevel_of_load hload with ⟨hnone, _⟩ | ⟨read, hread, hname⟩
  · rw [hraw] at hnone
    cases hnone
  · rw [hraw] at hread
    cases hread
    rwa [← hname]

/-- With an empty format the handlers do not get the format of the settings, but one that shows the
message alone. -/
theorem handlers_of_empty_format :
    let settings : Settings := { logFormat := "" }
    (fresh.configure settings).2 = .ok () ∧
      (fresh.configure settings).1.handlers = [some "%(message)s"] ∧
      some "%(message)s" ≠ some settings.logFormat := by
  decide +kernel

/-- After one configuration that failed half way, one that did nothing and one that succeeded, the
level comes with blanks and in small letters. -/
theorem last_configuration_wins_after_failures :
    let calls : List Settings :=
      [{ logLevel := "DEBUG", logFormat := "plain" }, { logLevel := "VERBOSE" },
        { logLevel := "ERROR", logFormat := "%(name)s" }]
    let settings : Settings := { logLevel := "WARNING", logFormat := "%(levelname)s %(message)s" }
    let sources : Settings.Sources :=
      { arguments := [("log_level", .string " warning\n")]
        environment := [("LOG_FORMAT", "%(levelname)s %(message)s")]
        file := [] }
    let final := fresh.configureAll (calls ++ [settings])
    Settings.load sources = .ok settings ∧
      ((fresh.configureAll calls).configure settings).2 = .ok () ∧
      (Settings.normalizedText " warning\n", final.level) ∈ levelNames ∧
      final.handlers = [some "%(levelname)s %(message)s"] ∧
      ∀ moment ∈ fresh.history (calls ++ [settings]), moment.handlers.length ≤ 1 := by
  intro calls settings sources final
  have hload : Settings.load sources = .ok settings := by decide +kernel
  have hsucceeds : ((fresh.configureAll calls).configure settings).2 = .ok () := by decide +kernel
  obtain ⟨hlast, _, hfew⟩ := last_configuration_wins fresh calls settings
  obtain ⟨_, _, _, hlevel, hhandlers⟩ := hlast hsucceeds
  exact ⟨hload, hsucceeds, hlevel sources " warning\n" hload rfl, hhandlers, hfew⟩

end Logging.Logger

end ConferenceBridge
