import GroqQuery.Proofs.Construction
import GroqQuery.Proofs.Reading
import GroqQuery.Proofs.Text.Capitals
import GroqQuery.Settings.Loading
import Mathlib.Data.List.TakeWhile

/-!
How settings are loaded. Every setting is taken from the first source that has it. A log level that
nobody knows is refused before a blank drafts path, and either of them before anything of the wrong
type is reported; what is reported are all such settings, in the order in which they are declared.
Loaded settings are what was found, and their log level is one that the log knows.
-/

namespace GroqQuery

inductive Source where
  | given
  | environment
  | file
  | default

namespace Source

/-- From the first to be asked to the last. -/
def all : List Source := [.given, .environment, .file, .default]

def offer? (sources : Sources) (setting : Setting) : Source → Option Value
  | .given => sources.given.get? setting.name
  | .environment => Sources.ofVariables? sources.environment setting
  | .file => Sources.ofVariables? sources.file setting
  | .default => some (Preferences.default.get setting)

end Source

namespace Sources

theorem value_of_first (sources : Sources) (setting : Setting) :
    ∃ before source after, Source.all = before ++ source :: after ∧
      source.offer? sources setting = some (sources.value setting) ∧
      ∀ earlier ∈ before, earlier.offer? sources setting = none := by
  apply List.findSome?_eq_some_iff.mp
  simp only [Source.all, List.findSome?_cons, Source.offer?, Sources.value]
  cases sources.given.get? setting.name with
  | some value => rfl
  | none =>
      cases ofVariables? sources.environment setting with
      | some value => rfl
      | none => cases ofVariables? sources.file setting <;> rfl

end Sources

def Flaw.of? {Content : Type} : Except Flaw Content → Option Flaw
  | .ok _ => none
  | .error flaw => some flaw

namespace Sources

/-- The settings of the wrong type, each with what is wrong with it, in the order of their
declaration. -/
def faults (conversion : Conversion) (sources : Sources) : List FieldFault :=
  Setting.all.filterMap fun setting =>
    let flaw := match setting with
      | .includeDrafts => Flaw.of? (conversion.asFlag (sources.value setting))
      | _ => Flaw.of? (conversion.asText (sources.value setting))
    flaw.map (FieldFault.mk setting.name)

end Sources

namespace Checked

variable {Content Other : Type}

/-- A check that reports just these faults, and comes to a result if there are none. -/
def Reports (checked : Checked Content) (faults : List FieldFault) : Prop :=
  match checked with
  | .ok _ => faults = []
  | .error found => found = faults ∧ faults ≠ []

namespace Reports

theorem check (name : String) (result : Except Flaw Content) :
    Reports (Fields.check name result) ((Flaw.of? result).map (FieldFault.mk name)).toList := by
  cases result with
  | ok content => rfl
  | error flaw => exact ⟨rfl, List.cons_ne_nil _ _⟩

theorem both {left : Checked Content} {right : Checked Other} {faults more : List FieldFault}
    (first : Reports left faults) (second : Reports right more) :
    Reports (left.both right) (faults ++ more) := by
  cases left with
  | ok content =>
      have none : faults = [] := first
      subst none
      cases right with
      | ok other => exact second
      | error found => exact second
  | error found =>
      obtain ⟨rfl, some⟩ := first
      cases right with
      | ok other =>
          have none : more = [] := second
          subst none
          rw [List.append_nil]
          exact ⟨rfl, some⟩
      | error others =>
          obtain ⟨rfl, _⟩ := second
          refine ⟨rfl, ?_⟩
          simp [some]

theorem map {checked : Checked Content} {faults : List FieldFault}
    (reports : Reports checked faults) (change : Content → Other) :
    Reports (Except.map change checked) faults := by
  cases checked <;> exact reports

theorem error_iff {checked : Checked Content} {faults : List FieldFault}
    (reports : Reports checked faults) (found : List FieldFault) :
    checked = .error found ↔ found = faults ∧ faults ≠ [] := by
  cases checked with
  | ok content =>
      have none : faults = [] := reports
      simp [none]
  | error others =>
      obtain ⟨rfl, some⟩ := reports
      simp [some, eq_comm]

end Reports

end Checked

namespace Settings

section

variable (conversion : Conversion) (sources : Sources)

def typed : Checked Settings :=
  ((Fields.check Setting.logLevel.name (conversion.asText (sources.value .logLevel))).both
    ((Fields.check Setting.baseQuery.name (conversion.asText (sources.value .baseQuery))).both
      ((Fields.check Setting.includeDrafts.name
          (conversion.asFlag (sources.value .includeDrafts))).both
        (Fields.check Setting.draftsPath.name
          (conversion.asText (sources.value .draftsPath)))))).map
    fun (logLevel, baseQuery, includeDrafts, draftsPath) =>
      ⟨logLevel, baseQuery, includeDrafts, draftsPath⟩

theorem typed_reports : (typed conversion sources).Reports (sources.faults conversion) := by
  have level := Checked.Reports.check Setting.logLevel.name
    (conversion.asText (sources.value .logLevel))
  have base := Checked.Reports.check Setting.baseQuery.name
    (conversion.asText (sources.value .baseQuery))
  have drafts := Checked.Reports.check Setting.includeDrafts.name
    (conversion.asFlag (sources.value .includeDrafts))
  have path := Checked.Reports.check Setting.draftsPath.name
    (conversion.asText (sources.value .draftsPath))
  have listed : sources.faults conversion = _ := List.filterMap_eq_flatMap_toList _ _
  rw [listed]
  simp only [Setting.all, List.flatMap_cons, List.flatMap_nil, List.append_nil]
  exact (level.both (base.both (drafts.both path))).map _

theorem typed_eq_ok (settings : Settings) :
    typed conversion sources = .ok settings ↔
      conversion.asText (sources.value .logLevel) = .ok settings.logLevel ∧
        conversion.asText (sources.value .baseQuery) = .ok settings.baseQuery ∧
        conversion.asFlag (sources.value .includeDrafts) = .ok settings.includeDrafts ∧
        conversion.asText (sources.value .draftsPath) = .ok settings.draftsPath := by
  have mapped : typed conversion sources = .ok settings ↔
      ∃ found, _ = Except.ok found ∧ _ = settings := map_eq_ok _ _ settings
  obtain ⟨level, base, drafts, path⟩ := settings
  simp only [mapped, Checked.both_eq_ok, Fields.check_eq_ok, Settings.mk.injEq]
  constructor
  · rintro ⟨_, checked, rfl, rfl, rfl, rfl⟩
    exact checked
  · intro checked
    exact ⟨(level, base, drafts, path), checked, rfl, rfl, rfl, rfl⟩

end

end Settings

theorem Conversion.eq_of_as_text (conversion : Conversion) {value : Value} {found : String}
    (taken : conversion.asText value = .ok found) (content : String)
    (given : value = .text content) : found = content := by
  rw [given, conversion.as_text_text, Except.ok.injEq] at taken
  exact taken.symm

namespace Text

theorem trim_eq_nil_iff (chars : List Char) :
    trim chars = [] ↔ ∀ char ∈ chars, isBlank char = true := by
  rw [trim, trimEnd, trimStart, List.reverse_eq_nil_iff, List.dropWhile_eq_nil_iff]
  simp only [List.mem_reverse]
  constructor
  · intro rest char member
    rw [← List.takeWhile_append_dropWhile (p := isBlank) (l := chars), List.mem_append] at member
    rcases member with front | back
    · exact List.mem_takeWhile_imp front
    · exact rest char back
  · intro each char member
    exact each char ((List.dropWhile_sublist isBlank).mem member)

theorem all_blank_iff (text : String) : allBlank text = true ↔ trim text.toList = [] := by
  rw [trim_eq_nil_iff, allBlank, List.all_eq_true]

end Text

namespace Sources

variable (conversion : Conversion) (sources : Sources)

/-- The log level is taken as a text that is neither empty nor the name of a level. -/
def RefusesLevel (found : String) : Prop :=
  conversion.asText (sources.value .logLevel) = .ok found ∧ found ≠ "" ∧
    Text.capitals found ∉ ["CRITICAL", "ERROR", "WARNING", "INFO", "DEBUG"]

/-- The drafts path is taken as a text of which no more than blanks is there. -/
def RefusesPath : Prop :=
  ∃ path, conversion.asText (sources.value .draftsPath) = .ok path ∧ Text.trim path.toList = []

end Sources

namespace Settings

section

variable {Content : Type} (setting : Setting) (taken : Except Flaw Content)
  (refuse : Content → Option SettingFault)

theorem check_field_eq_error (fault : SettingFault) :
    checkField setting taken refuse = .error fault ↔
      ∃ content, taken = .ok content ∧ refuse content = some fault := by
  unfold checkField
  cases taken with
  | error flaw => simp
  | ok content => cases refuses : refuse content <;> simp [refuses]

theorem check_field_eq_ok (checked : Checked Content) :
    checkField setting taken refuse = .ok checked ↔
      (∀ fault, checkField setting taken refuse ≠ .error fault) ∧
        Fields.check setting.name taken = checked := by
  unfold checkField
  cases taken with
  | error flaw => simp [Fields.check, Except.mapError]
  | ok content => cases refuses : refuse content <;> simp [refuses, Fields.check, Except.mapError]

end

variable (conversion : Conversion) (sources : Sources)

theorem check_log_level_eq_error (fault : SettingFault) :
    checkField .logLevel (conversion.asText (sources.value .logLevel)) refuseLogLevel =
        .error fault ↔
      ∃ found, sources.RefusesLevel conversion found ∧ fault = .unknownLogLevel found := by
  rw [check_field_eq_error]
  constructor
  · rintro ⟨found, taken, refused⟩
    by_cases unknown : found ≠ "" ∧ Text.capitals found ∉ levelNames
    · rw [refuseLogLevel, if_pos unknown] at refused
      exact ⟨found, ⟨taken, unknown⟩, (Option.some.inj refused).symm⟩
    · rw [refuseLogLevel, if_neg unknown] at refused
      cases refused
  · rintro ⟨found, ⟨taken, unknown⟩, rfl⟩
    exact ⟨found, taken, if_pos unknown⟩

theorem check_drafts_path_eq_error (fault : SettingFault) :
    checkField .draftsPath (conversion.asText (sources.value .draftsPath)) refuseDraftsPath =
        .error fault ↔
      sources.RefusesPath conversion ∧ fault = .blankDraftsPath := by
  rw [check_field_eq_error]
  constructor
  · rintro ⟨path, taken, refused⟩
    by_cases blank : Text.allBlank path = true
    · rw [refuseDraftsPath, if_pos blank] at refused
      exact ⟨⟨path, taken, (Text.all_blank_iff path).mp blank⟩, (Option.some.inj refused).symm⟩
    · rw [refuseDraftsPath, if_neg blank] at refused
      cases refused
  · rintro ⟨⟨path, taken, blank⟩, rfl⟩
    exact ⟨path, taken, if_pos ((Text.all_blank_iff path).mpr blank)⟩

theorem check_field_unrefused {Content : Type} (setting : Setting) (taken : Except Flaw Content) :
    checkField setting taken (fun _ => none) = .ok (Fields.check setting.name taken) := by
  rw [check_field_eq_ok]
  refine ⟨?_, rfl⟩
  intro fault failed
  obtain ⟨_, _, other⟩ := (check_field_eq_error _ _ _ fault).mp failed
  cases other

theorem check_fields_eq_bind :
    checkFields conversion sources = (do
      let _ ← checkField .logLevel (conversion.asText (sources.value .logLevel)) refuseLogLevel
      let _ ← checkField .draftsPath (conversion.asText (sources.value .draftsPath))
        refuseDraftsPath
      .ok (typed conversion sources)) := by
  simp only [checkFields, check_field_unrefused]
  cases level : checkField .logLevel (conversion.asText (sources.value .logLevel))
      refuseLogLevel with
  | error fault => rfl
  | ok checkedLevel =>
      cases path : checkField .draftsPath (conversion.asText (sources.value .draftsPath))
          refuseDraftsPath with
      | error fault => rfl
      | ok checkedPath =>
          rw [← ((check_field_eq_ok _ _ _ _).mp level).2, ← ((check_field_eq_ok _ _ _ _).mp path).2]
          rfl

theorem exists_check_log_level_iff :
    (∃ checked, checkField .logLevel (conversion.asText (sources.value .logLevel))
        refuseLogLevel = .ok checked) ↔ ∀ found, ¬sources.RefusesLevel conversion found := by
  rw [← not_iff_not]
  change ¬Accepted _ ↔ _
  simp only [not_accepted_iff, check_log_level_eq_error, not_forall, not_not]
  exact ⟨fun ⟨_, found, refused, _⟩ => ⟨found, refused⟩,
    fun ⟨found, refused⟩ => ⟨_, found, refused, rfl⟩⟩

theorem exists_check_drafts_path_iff :
    (∃ checked, checkField .draftsPath (conversion.asText (sources.value .draftsPath))
        refuseDraftsPath = .ok checked) ↔ ¬sources.RefusesPath conversion := by
  rw [← not_iff_not]
  change ¬Accepted _ ↔ _
  simp only [not_accepted_iff, check_drafts_path_eq_error, not_not]
  exact ⟨fun ⟨_, refused, _⟩ => refused, fun refused => ⟨_, refused, rfl⟩⟩

theorem check_fields_eq_error (fault : SettingFault) :
    checkFields conversion sources = .error fault ↔
      (∃ found, sources.RefusesLevel conversion found ∧ fault = .unknownLogLevel found) ∨
        (∀ found, ¬sources.RefusesLevel conversion found) ∧
          sources.RefusesPath conversion ∧ fault = .blankDraftsPath := by
  rw [← check_log_level_eq_error, ← check_drafts_path_eq_error, ← exists_check_log_level_iff,
    check_fields_eq_bind]
  simp [bind_eq_error]

theorem check_fields_eq_ok (checked : Checked Settings) :
    checkFields conversion sources = .ok checked ↔
      (∀ found, ¬sources.RefusesLevel conversion found) ∧ ¬sources.RefusesPath conversion ∧
        typed conversion sources = checked := by
  rw [← exists_check_log_level_iff, ← exists_check_drafts_path_iff, check_fields_eq_bind]
  simp [bind_eq_ok]

theorem load_refused_iff (fault : SettingFault) :
    load conversion sources = .error (.refused fault) ↔
      checkFields conversion sources = .error fault := by
  unfold load
  cases checkFields conversion sources with
  | error found => simp
  | ok checked => cases checked <;> simp [Except.mapError]

theorem load_ill_typed_iff (faults : List FieldFault) :
    load conversion sources = .error (.illTyped faults) ↔
      (∀ found, ¬sources.RefusesLevel conversion found) ∧ ¬sources.RefusesPath conversion ∧
        faults = sources.faults conversion ∧ sources.faults conversion ≠ [] := by
  rw [← (typed_reports conversion sources).error_iff, ← check_fields_eq_ok, load]
  cases checkFields conversion sources with
  | error found => simp
  | ok checked => cases checked <;> simp [Except.mapError]

theorem load_eq_ok_iff (settings : Settings) :
    load conversion sources = .ok settings ↔
      (∀ found, ¬sources.RefusesLevel conversion found) ∧ ¬sources.RefusesPath conversion ∧
        typed conversion sources = .ok settings := by
  rw [← check_fields_eq_ok, load]
  cases checkFields conversion sources with
  | error found => simp
  | ok checked => cases checked <;> simp [Except.mapError]

theorem log_level_of_load (settings : Settings)
    (loaded : load conversion sources = .ok settings) :
    settings.logLevel = "" ∨ ∃ severity : Severity,
      severity.name = Text.capitals settings.logLevel ∧
        Severity.ofName? settings.logLevel = some severity ∧
        Severity.ofName settings.logLevel = severity := by
  obtain ⟨unrefused, _, checked⟩ := (load_eq_ok_iff conversion sources settings).mp loaded
  obtain ⟨taken, _⟩ := (typed_eq_ok conversion sources settings).mp checked
  by_cases empty : settings.logLevel = ""
  · exact .inl empty
  · right
    have named : Text.capitals settings.logLevel ∈ Severity.all.map Severity.name := by
      by_contra unnamed
      exact unrefused settings.logLevel ⟨taken, empty, unnamed⟩
    obtain ⟨severity, _, same⟩ := List.mem_map.mp named
    have found : Severity.ofName? settings.logLevel = some severity :=
      (Severity.of_name_eq_some settings.logLevel severity).mpr same.symm
    exact ⟨severity, same, found, by rw [Severity.ofName, found, Option.getD_some]⟩

theorem exists_of_no_faults (none : sources.faults conversion = []) :
    ∃ settings, typed conversion sources = .ok settings := by
  have reports := typed_reports conversion sources
  cases checked : typed conversion sources with
  | ok settings => exact ⟨settings, rfl⟩
  | error faults =>
      rw [checked] at reports
      exact absurd none reports.2

end Settings

/-- What loading comes to, told from the first source of each setting that has it and from what its
field takes that value as, whatever else than texts a field for texts may take. A log level that is
neither empty nor, by its capitals, the name of a level is refused. Otherwise a drafts path is
refused of which nothing is left without its blanks, whatever else is wrong. Otherwise all settings
of the wrong type are reported in the order of their declaration. If there are none, the settings
are loaded just as they were taken, a text as it is, and the log has their level in its table unless
it is empty. -/
theorem settings_loaded_or_refused (conversion : Conversion) :
    (∀ (sources : Sources) (setting : Setting), ∃ before source after,
      Source.all = before ++ source :: after ∧
        source.offer? sources setting = some (sources.value setting) ∧
        ∀ earlier ∈ before, earlier.offer? sources setting = none) ∧
    (∀ upper : Char → List Char, Text.IsUpperCasing upper →
      ∀ (text : String) (severity : Severity),
        String.ofList (text.toList.flatMap upper) = severity.name ↔
          Text.capitals text = severity.name) ∧
    (∀ found : String,
      (SettingFault.unknownLogLevel found).failure.kind = .invalidConfiguration ∧
        (SettingFault.unknownLogLevel found).failure.details =
          [(.text "config_key", .text "LOG_LEVEL"), (.text "value", .text found)]) ∧
    (SettingFault.blankDraftsPath.failure.kind = .invalidConfiguration ∧
      SettingFault.blankDraftsPath.failure.details =
        [(.text "config_key", .text "GROQ_DRAFTS_PATH")]) ∧
    ∀ sources : Sources,
      (∀ found, Settings.load conversion sources = .error (.refused (.unknownLogLevel found)) ↔
        sources.RefusesLevel conversion found) ∧
      (Settings.load conversion sources = .error (.refused .blankDraftsPath) ↔
        (∀ found, ¬sources.RefusesLevel conversion found) ∧ sources.RefusesPath conversion) ∧
      (∀ faults, Settings.load conversion sources = .error (.illTyped faults) ↔
        (∀ found, ¬sources.RefusesLevel conversion found) ∧ ¬sources.RefusesPath conversion ∧
          faults = sources.faults conversion ∧ sources.faults conversion ≠ []) ∧
      ((∀ found, ¬sources.RefusesLevel conversion found) → ¬sources.RefusesPath conversion →
        sources.faults conversion = [] →
        ∃ settings, Settings.load conversion sources = .ok settings) ∧
      ∀ settings, Settings.load conversion sources = .ok settings →
        conversion.asText (sources.value .logLevel) = .ok settings.logLevel ∧
          conversion.asText (sources.value .baseQuery) = .ok settings.baseQuery ∧
          conversion.asFlag (sources.value .includeDrafts) = .ok settings.includeDrafts ∧
          conversion.asText (sources.value .draftsPath) = .ok settings.draftsPath ∧
          (∀ content, sources.value .logLevel = .text content → settings.logLevel = content) ∧
          (∀ content, sources.value .baseQuery = .text content → settings.baseQuery = content) ∧
          (∀ content, sources.value .draftsPath = .text content → settings.draftsPath = content) ∧
          (settings.logLevel = "" ∨ ∃ severity : Severity,
            severity.name = Text.capitals settings.logLevel ∧
              Severity.ofName? settings.logLevel = some severity ∧
              Severity.ofName settings.logLevel = severity) := by
  refine ⟨Sources.value_of_first, ?_, fun found => ⟨rfl, rfl⟩, ⟨rfl, rfl⟩, ?_⟩
  · intro upper upperCasing text severity
    refine upperCasing.capitals_eq_iff text severity.name ?_
    cases severity <;> simp [Severity.name, Text.IsAscii]
  intro sources
  refine ⟨?_, ?_, Settings.load_ill_typed_iff conversion sources, ?_, ?_⟩
  · intro found
    rw [Settings.load_refused_iff, Settings.check_fields_eq_error]
    simp
  · rw [Settings.load_refused_iff, Settings.check_fields_eq_error]
    simp
  · intro level path none
    obtain ⟨settings, checked⟩ := Settings.exists_of_no_faults conversion sources none
    exact ⟨settings, (Settings.load_eq_ok_iff conversion sources settings).mpr
      ⟨level, path, checked⟩⟩
  · intro settings loaded
    obtain ⟨_, _, checked⟩ := (Settings.load_eq_ok_iff conversion sources settings).mp loaded
    obtain ⟨level, base, drafts, path⟩ :=
      (Settings.typed_eq_ok conversion sources settings).mp checked
    exact ⟨level, base, drafts, path, conversion.eq_of_as_text level, conversion.eq_of_as_text base,
      conversion.eq_of_as_text path, Settings.log_level_of_load conversion sources settings loaded⟩

/-- A log level in letters outside ASCII from the environment and a drafts path from the file, with
a flag that can be read and with two settings of the wrong type. -/
theorem settings_loaded_or_refused_from_three_sources :
    let load := Settings.load Conversion.ofRecords
    let environment := [("log_level", "ınfo")]
    let file := EnvFile.assignments "export GROQ_DRAFTS_PATH='a '  # kept\n"
    let good : Sources := ⟨[("GROQ_INCLUDE_DRAFTS", .int 1)], environment, file⟩
    let bad : Sources :=
      ⟨[("GROQ_INCLUDE_DRAFTS", .int 2), ("GROQ_BASE_QUERY", .null)], environment, file⟩
    load good = .ok ⟨"ınfo", "*", true, "a "⟩ ∧
      (∃ severity : Severity, severity.name = Text.capitals "ınfo" ∧
        Severity.ofName? "ınfo" = some severity ∧ Severity.ofName "ınfo" = severity) ∧
      String.ofList ("ınfo".toList.flatMap Text.capital) = Severity.info.name ∧
      load bad = .error (.illTyped
        [⟨"GROQ_BASE_QUERY", .notText⟩, ⟨"GROQ_INCLUDE_DRAFTS", .unreadableFlag⟩]) ∧
      (∀ found, ¬bad.RefusesLevel Conversion.ofRecords found) ∧
      ¬bad.RefusesPath Conversion.ofRecords := by
  intro load environment file good bad
  obtain ⟨_, ofUpper, _, _, ofSources⟩ := settings_loaded_or_refused Conversion.ofRecords
  obtain ⟨_, _, _, _, ofLoaded⟩ := ofSources good
  obtain ⟨_, _, reported, _, _⟩ := ofSources bad
  have loaded : load good = .ok ⟨"ınfo", "*", true, "a "⟩ := by decide
  have failed : load bad = .error (.illTyped
      [⟨"GROQ_BASE_QUERY", .notText⟩, ⟨"GROQ_INCLUDE_DRAFTS", .unreadableFlag⟩]) := by decide
  obtain ⟨level, path, _⟩ := (reported _).mp failed
  obtain ⟨_, _, _, _, _, _, _, known⟩ := ofLoaded _ loaded
  refine ⟨loaded, ?_, ?_, failed, level, path⟩
  · rcases known with empty | known
    · exact absurd empty (by decide)
    · exact known
  · exact (ofUpper Text.capital Text.capital_is_upper_casing "ınfo" .info).mpr (by decide)

/-- Not only texts are refused as log levels: a field for texts takes a marker as its word, and that
is no level either. -/
theorem settings_loaded_or_refused_not_for_texts_alone :
    ¬∀ sources : Sources,
      (∃ found, Settings.load Conversion.ofRecords sources =
        .error (.refused (.unknownLogLevel found))) ↔
        ∃ content, sources.value .logLevel = .text content ∧ content ≠ "" ∧
          Text.capitals content ∉ ["CRITICAL", "ERROR", "WARNING", "INFO", "DEBUG"] := by
  intro textsAlone
  have refused : Settings.load Conversion.ofRecords ⟨[("LOG_LEVEL", .marker .join)], [], []⟩ =
      .error (.refused (.unknownLogLevel "join")) := by decide
  obtain ⟨content, other, _⟩ := (textsAlone _).mp ⟨"join", refused⟩
  cases other

end GroqQuery
