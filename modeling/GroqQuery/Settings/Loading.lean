import GroqQuery.Failure
import GroqQuery.Field
import GroqQuery.Log
import GroqQuery.Settings
import GroqQuery.Settings.EnvFile
import GroqQuery.Text.Blank

/-!
Loading the settings. The value of a setting comes from the first source that has it: what is given
directly, the environment, the environment file, the default. The fields are checked one after the
other: a log level nobody knows and a blank drafts path end the loading at once, whatever else is of
the wrong type is reported together at its end.
-/

namespace GroqQuery

structure Settings where
  logLevel : String
  baseQuery : String
  includeDrafts : Bool
  draftsPath : String
  deriving DecidableEq, Repr

namespace Settings

def default : Settings := ⟨"INFO", "*", false, "drafts.**"⟩

def preferences (settings : Settings) : Preferences :=
  ⟨.text settings.logLevel, .text settings.baseQuery, .bool settings.includeDrafts,
    .text settings.draftsPath⟩

end Settings

namespace Preferences

def default : Preferences := Settings.default.preferences

def get (preferences : Preferences) : Setting → Value
  | .logLevel => preferences.logLevel
  | .baseQuery => preferences.baseQuery
  | .includeDrafts => preferences.includeDrafts
  | .draftsPath => preferences.draftsPath

end Preferences

/-- Where settings come from. Names of variables count in any letter case, names of values that
are given directly only as they are. -/
structure Sources where
  given : Fields
  environment : List (String × String)
  file : List (String × String)

namespace Sources

/-- Of several variables that differ in letter case only, the last one counts. -/
def ofVariables? (assigned : List (String × String)) (setting : Setting) : Option Value :=
  (assigned.reverse.find? fun entry => Text.lower entry.1 = Text.lower setting.name).map
    fun entry => .text entry.2

def value (sources : Sources) (setting : Setting) : Value :=
  (sources.given.get? setting.name <|> ofVariables? sources.environment setting <|>
    ofVariables? sources.file setting).getD (Preferences.default.get setting)

end Sources

inductive SettingFault where
  | unknownLogLevel (found : String)
  | blankDraftsPath
  deriving DecidableEq, Repr

namespace SettingFault

def failure : SettingFault → Failure
  | .unknownLogLevel found =>
      ⟨.invalidConfiguration, "Unknown log level",
        [(.text "config_key", .text Setting.logLevel.name), (.text "value", .text found)]⟩
  | .blankDraftsPath =>
      ⟨.invalidConfiguration, "Drafts path must not be empty",
        [(.text "config_key", .text Setting.draftsPath.name)]⟩

end SettingFault

inductive LoadFault where
  | refused (fault : SettingFault)
  | illTyped (faults : List FieldFault)
  deriving DecidableEq, Repr

/-- What fields for texts and for flags take a value as, or what is wrong with it there. Only that
texts are taken as they are is settled. -/
structure Conversion where
  asText : Value → Except Flaw String
  asFlag : Value → Except Flaw Bool
  as_text_text : ∀ content : String, asText (.text content) = .ok content

/-- The conversion that all other records are built with. -/
def Conversion.ofRecords : Conversion where
  asText := Value.asText
  asFlag := Value.asFlag
  as_text_text _ := rfl

namespace Settings

def levelNames : List String := ["CRITICAL", "ERROR", "WARNING", "INFO", "DEBUG"]

/-- The empty level is let through and means the default one. -/
def refuseLogLevel (level : String) : Option SettingFault :=
  if level ≠ "" ∧ Text.capitals level ∉ levelNames then some (.unknownLogLevel level) else none

def refuseDraftsPath (path : String) : Option SettingFault :=
  if Text.allBlank path then some .blankDraftsPath else none

/-- A field of the wrong type is only reported. One of the right type may be refused, and then
nothing else is looked at. -/
def checkField {α : Type} (setting : Setting) (taken : Except Flaw α)
    (refuse : α → Option SettingFault) : Except SettingFault (Checked α) :=
  match taken with
  | .error flaw => .ok (.error [⟨setting.name, flaw⟩])
  | .ok content =>
      match refuse content with
      | some fault => .error fault
      | none => .ok (.ok content)

def checkFields (conversion : Conversion) (sources : Sources) :
    Except SettingFault (Checked Settings) := do
  let logLevel ← checkField .logLevel (conversion.asText (sources.value .logLevel)) refuseLogLevel
  let baseQuery ←
    checkField .baseQuery (conversion.asText (sources.value .baseQuery)) fun _ => none
  let includeDrafts ←
    checkField .includeDrafts (conversion.asFlag (sources.value .includeDrafts)) fun _ => none
  let draftsPath ←
    checkField .draftsPath (conversion.asText (sources.value .draftsPath)) refuseDraftsPath
  .ok ((logLevel.both (baseQuery.both (includeDrafts.both draftsPath))).map
    fun (logLevel, baseQuery, includeDrafts, draftsPath) =>
      ⟨logLevel, baseQuery, includeDrafts, draftsPath⟩)

def load (conversion : Conversion) (sources : Sources) : Except LoadFault Settings :=
  match checkFields conversion sources with
  | .error fault => .error (.refused fault)
  | .ok checked => checked.mapError .illTyped

end Settings

end GroqQuery
