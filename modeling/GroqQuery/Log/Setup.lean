import GroqQuery.Log
import GroqQuery.Log.Message

/-!
Setting up the log of a process. The first setup, or the first logger made, fixes the level and
adds a handler if there is none; nothing changes either of them afterwards.
-/

namespace GroqQuery

/-- A handler that was there before writes nothing that is seen here; the one added by the setup
writes lines. -/
inductive Handler where
  | silent
  | lines
  deriving DecidableEq, Repr

structure Logging where
  configured : Bool
  level : Option Severity
  handlers : List Handler
  /-- The name of the level in the settings, for loggers made before any setup. -/
  settingsLevel : String
  deriving DecidableEq, Repr

namespace Logging

def rootLogger : String := "groqbuilder"

def layout : String := "%(asctime)s %(levelname)s [%(name)s] %(message)s"

def line (time : String) (severity : Severity) (logger text : String) : String :=
  time ++ " " ++ severity.name ++ " [" ++ logger ++ "] " ++ text ++ "\n"

def fresh (handlers : List Handler) (settingsLevel : String) : Logging :=
  ⟨false, none, handlers, settingsLevel⟩

/-- The name of a level may be left out like an empty one. -/
def setup (logging : Logging) (level : Option String) : Logging :=
  if logging.configured then logging
  else
    { logging with
      configured := true
      level := some (Severity.ofName (level.getD ""))
      handlers := if logging.handlers.isEmpty then [.lines] else logging.handlers }

def loggerName (name : Option String) : String :=
  match name with
  | none => rootLogger
  | some name =>
      if name = "" then rootLogger
      else if name = rootLogger ∨ (rootLogger ++ ".").toList.isPrefixOf name.toList then name
      else rootLogger ++ "." ++ name

def makeLogger (logging : Logging) (name : Option String) : Logging × String :=
  (logging.setup (some logging.settingsLevel), loggerName name)

def assignSettingsLevel (logging : Logging) (level : String) : Logging :=
  { logging with settingsLevel := level }

/-- Before a level is set, warnings and worse are let through. -/
def lets (logging : Logging) (severity : Severity) : Bool :=
  (logging.level.getD .warning).rank ≤ severity.rank

/-- What a call writes: one line per handler that writes lines, if its severity is let through and
its message has a text. Without any handler a warning or worse is written as its bare text. -/
def emit (logging : Logging) (format : Formatter) (time : String) (record : Record) : String :=
  match logging.lets record.severity, format.text? record.message record.arguments with
  | true, some text =>
      if logging.handlers.isEmpty then
        if Severity.warning.rank ≤ record.severity.rank then text ++ "\n" else ""
      else
        let written := logging.handlers.filter (· = .lines)
        String.join (written.map fun _ => line time record.severity record.logger text)
  | _, _ => ""

end Logging

end GroqQuery
