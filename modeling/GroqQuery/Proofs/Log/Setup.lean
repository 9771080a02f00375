import GroqQuery.Log.Setup
import Mathlib.Data.List.Basic

/-!
The log of a process as a whole. Whatever is called in whatever order, the first setup or the first
logger made fixes the level and the handlers for good. Loggers stay inside the namespace of the
library, and once there is one, each call through it writes a single line, or nothing if its
severity is below the level.
-/

namespace GroqQuery

/-- What happens in a process that has to do with its log. A call goes through the logger that its
record names. -/
inductive LogEvent where
  | setup (level : Option String)
  | makeLogger (name : Option String)
  | assignLevel (level : String)
  | call (time : String) (record : Record)

namespace LogEvent

/-- The level that an event asks for if it sets the log up, where the settings have a level. -/
def level? (settingsLevel : String) : LogEvent → Option (Option String)
  | .setup level => some level
  | .makeLogger _ => some (some settingsLevel)
  | _ => none

def setsUp : LogEvent → Bool
  | .setup _ | .makeLogger _ => true
  | _ => false

theorem is_some_level (settingsLevel : String) (event : LogEvent) :
    (event.level? settingsLevel).isSome = event.setsUp := by
  cases event <;> rfl

def assigned? : LogEvent → Option String
  | .assignLevel level => some level
  | _ => none

def lastAssigned (settingsLevel : String) (events : List LogEvent) : String :=
  (events.filterMap assigned?).getLast?.getD settingsLevel

def logger? : LogEvent → Option String
  | .makeLogger name => some (Logging.loggerName name)
  | _ => none

end LogEvent

structure Process where
  logging : Logging
  loggers : List String
  output : String

namespace Process

variable (format : Formatter)

/-- Nothing can be called on a logger that has not been made. -/
def next (process : Process) : LogEvent → Process
  | .setup level => { process with logging := process.logging.setup level }
  | .makeLogger name =>
      let made := process.logging.makeLogger name
      { process with logging := made.1, loggers := process.loggers ++ [made.2] }
  | .assignLevel level =>
      { process with logging := process.logging.assignSettingsLevel level }
  | .call time record =>
      if record.logger ∈ process.loggers then
        { process with output := process.output ++ process.logging.emit format time record }
      else process

def run (process : Process) (events : List LogEvent) : Process :=
  events.foldl (next format) process

theorem run_append (process : Process) (events others : List LogEvent) :
    process.run format (events ++ others) = (process.run format events).run format others :=
  List.foldl_append

theorem run_concat (process : Process) (events : List LogEvent) (event : LogEvent) :
    process.run format (events ++ [event]) = (process.run format events).next format event :=
  List.foldl_concat (next format) process event events

end Process

namespace Logging

/-- The name of the library itself, or a name below it. -/
def IsNamespaced (logger : String) : Prop :=
  logger = "groqbuilder" ∨ "groqbuilder.".toList <+: logger.toList

theorem logger_name_is_namespaced (name : Option String) : IsNamespaced (loggerName name) := by
  cases name with
  | none => exact .inl rfl
  | some name =>
      unfold loggerName
      simp only
      split
      · exact .inl rfl
      · split
        next inside =>
          rcases inside with same | below
          · exact .inl same
          · exact .inr (List.isPrefixOf_iff_prefix.mp below)
        next =>
          right
          rw [String.toList_append]
          exact List.prefix_append _ _

theorem logger_name_of_is_namespaced (logger : String) (namespaced : IsNamespaced logger) :
    loggerName (some logger) = logger := by
  have nonempty : logger ≠ "" := by
    intro empty
    rw [empty] at namespaced
    rcases namespaced with same | below
    · exact absurd same (by decide)
    · exact absurd (List.prefix_nil.mp below) (by decide)
  have inside : logger = rootLogger ∨
      (rootLogger ++ ".").toList.isPrefixOf logger.toList = true := by
    rcases namespaced with same | below
    · exact .inl same
    · exact .inr (List.isPrefixOf_iff_prefix.mpr below)
  simp only [loggerName]
  rw [if_neg nonempty, if_pos inside]

/-- A layout with its places filled. Inside a place, its name so far is kept. -/
def fillLayout (part : String → String) : Option (List Char) → List Char → List Char
  | none, '%' :: '(' :: rest => fillLayout part (some []) rest
  | none, char :: rest => char :: fillLayout part none rest
  | some name, ')' :: 's' :: rest =>
      (part (String.ofList name)).toList ++ fillLayout part none rest
  | some name, char :: rest => fillLayout part (some (name ++ [char])) rest
  | _, [] => []

def partOf (time : String) (severity : Severity) (logger text : String) : String → String
  | "asctime" => time
  | "levelname" => severity.name
  | "name" => logger
  | "message" => text
  | _ => ""

theorem line_of_layout (time : String) (severity : Severity) (logger text : String) :
    line time severity logger text =
      String.ofList (fillLayout (partOf time severity logger text) none layout.toList) ++ "\n" := by
  rw [← String.toList_inj]
  simp [line, layout, fillLayout, partOf]

theorem setup_of_configured (logging : Logging) (configured : logging.configured = true)
    (level : Option String) : logging.setup level = logging := by
  rw [setup, if_pos configured]

theorem setup_of_unconfigured (logging : Logging) (unconfigured : logging.configured = false)
    (level : Option String) :
    logging.setup level =
      { logging with
        configured := true
        level := some (Severity.ofName (level.getD ""))
        handlers := if logging.handlers = [] then [.lines] else logging.handlers } := by
  simp [setup, unconfigured]

theorem emit_of_lines (logging : Logging) (threshold : Severity)
    (level : logging.level = some threshold) (handlers : logging.handlers = [.lines])
    (format : Formatter) (time : String) (record : Record) (text : String)
    (formats : format.text? record.message record.arguments = some text) :
    logging.emit format time record =
      if threshold.rank ≤ record.severity.rank then
        line time record.severity record.logger text
      else "" := by
  by_cases high : threshold.rank ≤ record.severity.rank
  · have passes : logging.lets record.severity = true := by simp [lets, level, high]
    simp [emit, passes, formats, handlers, high]
  · have stops : logging.lets record.severity = false := by simp [lets, level, high]
    simp [emit, stops, high]

end Logging

namespace Process

variable (format : Formatter)

theorem next_of_not_sets_up (process : Process) (event : LogEvent) (quiet : event.setsUp = false) :
    (process.next format event).logging =
      { process.logging with
        settingsLevel := event.assigned?.getD process.logging.settingsLevel } := by
  cases event with
  | setup level => cases quiet
  | makeLogger name => cases quiet
  | assignLevel level => rfl
  | call time record =>
      rw [next]
      split <;> rfl

theorem run_of_not_sets_up (process : Process) (events : List LogEvent)
    (quiet : ∀ event ∈ events, event.setsUp = false) :
    (process.run format events).logging =
      { process.logging with
        settingsLevel := LogEvent.lastAssigned process.logging.settingsLevel events } := by
  induction events generalizing process with
  | nil => rfl
  | cons event events induction =>
      have rest := induction (process.next format event) fun other member =>
        quiet other (List.mem_cons_of_mem event member)
      change ((process.next format event).run format events).logging = _
      rw [rest, next_of_not_sets_up format process event (quiet event List.mem_cons_self)]
      cases assigns : event.assigned? with
      | none => simp [LogEvent.lastAssigned, assigns]
      | some level => simp [LogEvent.lastAssigned, assigns, List.getLast?_cons]

theorem next_of_level format (process : Process) (unconfigured : process.logging.configured = false)
    (event : LogEvent) (level : Option String)
    (asks : event.level? process.logging.settingsLevel = some level) :
    (process.next format event).logging =
      { process.logging with
        configured := true
        level := some (Severity.ofName (level.getD ""))
        handlers :=
          if process.logging.handlers = [] then [.lines] else process.logging.handlers } := by
  have fixes := process.logging.setup_of_unconfigured unconfigured level
  cases event with
  | setup other =>
      cases asks
      exact fixes
  | makeLogger name =>
      cases asks
      exact fixes
  | assignLevel other => cases asks
  | call time record => cases asks

theorem next_of_configured (process : Process) (configured : process.logging.configured = true)
    (event : LogEvent) :
    (process.next format event).logging.configured = true ∧
      (process.next format event).logging.level = process.logging.level ∧
      (process.next format event).logging.handlers = process.logging.handlers := by
  have again := process.logging.setup_of_configured configured
  cases event with
  | setup level => simp [next, again, configured]
  | makeLogger name => simp [next, Logging.makeLogger, again, configured]
  | assignLevel level => simp [next, Logging.assignSettingsLevel, configured]
  | call time record =>
      rw [next]
      split <;> simp [configured]

theorem run_of_configured (process : Process) (configured : process.logging.configured = true)
    (events : List LogEvent) :
    (process.run format events).logging.configured = true ∧
      (process.run format events).logging.level = process.logging.level ∧
      (process.run format events).logging.handlers = process.logging.handlers := by
  induction events generalizing process with
  | nil => exact ⟨configured, rfl, rfl⟩
  | cons event events induction =>
      obtain ⟨still, level, handlers⟩ := next_of_configured format process configured event
      obtain ⟨atEnd, sameLevel, sameHandlers⟩ := induction (process.next format event) still
      exact ⟨atEnd, sameLevel.trans level, sameHandlers.trans handlers⟩

theorem run_of_first (process : Process) (unconfigured : process.logging.configured = false)
    (before : List LogEvent) (first : LogEvent) (after : List LogEvent) (level : Option String)
    (quiet : ∀ event ∈ before, event.setsUp = false)
    (asks : first.level? (LogEvent.lastAssigned process.logging.settingsLevel before) =
      some level) :
    (process.run format (before ++ first :: after)).logging.level =
        some (Severity.ofName (level.getD "")) ∧
      (process.run format (before ++ first :: after)).logging.handlers =
        if process.logging.handlers = [] then [.lines] else process.logging.handlers := by
  have reached := run_of_not_sets_up format process before quiet
  have settled := next_of_level format (process.run format before)
    (by rw [reached, unconfigured]) first level (by rw [reached, asks])
  obtain ⟨_, sameLevel, sameHandlers⟩ :=
    run_of_configured format ((process.run format before).next format first) (by rw [settled]) after
  rw [run_append]
  constructor
  · exact sameLevel.trans (by rw [settled])
  · exact sameHandlers.trans (by rw [settled, reached])

theorem next_loggers (process : Process) (event : LogEvent) :
    (process.next format event).loggers = process.loggers ++ event.logger?.toList := by
  cases event with
  | call time record =>
      rw [next]
      split <;> simp [LogEvent.logger?]
  | _ => simp [next, LogEvent.logger?, Logging.makeLogger]

theorem run_loggers (process : Process) (events : List LogEvent) :
    (process.run format events).loggers = process.loggers ++ events.filterMap LogEvent.logger? := by
  induction events generalizing process with
  | nil => simp [run]
  | cons event events induction =>
      change ((process.next format event).run format events).loggers = _
      rw [induction, next_loggers]
      cases made : event.logger? <;> simp [made]

theorem exists_first (events : List LogEvent) (event : LogEvent) (member : event ∈ events)
    (sets : event.setsUp = true) :
    ∃ before first after, events = before ++ first :: after ∧
      (∀ other ∈ before, other.setsUp = false) ∧ first.setsUp = true := by
  have found : (events.find? LogEvent.setsUp).isSome = true :=
    List.find?_isSome.mpr ⟨event, member, sets⟩
  obtain ⟨first, isFirst⟩ := Option.isSome_iff_exists.mp found
  obtain ⟨setsFirst, before, after, parts, quiet⟩ := List.find?_eq_some_iff_append.mp isFirst
  exact ⟨before, first, after, parts, by simpa using quiet, setsFirst⟩

/-- A logger is there only if the log has been set up, and without handlers of its own the process
then writes lines. -/
theorem exists_level_of_logger (process : Process)
    (unconfigured : process.logging.configured = false) (none : process.loggers = [])
    (bare : process.logging.handlers = []) (events : List LogEvent) (logger : String)
    (made : logger ∈ (process.run format events).loggers) :
    ∃ threshold, (process.run format events).logging.level = some threshold ∧
      (process.run format events).logging.handlers = [.lines] := by
  rw [run_loggers, none, List.nil_append, List.mem_filterMap] at made
  obtain ⟨event, member, makes⟩ := made
  have sets : event.setsUp = true := by
    cases event with
    | makeLogger name => rfl
    | _ => cases makes
  obtain ⟨before, first, after, rfl, quiet, setsFirst⟩ := exists_first events event member sets
  rw [← LogEvent.is_some_level (LogEvent.lastAssigned process.logging.settingsLevel before),
    Option.isSome_iff_exists] at setsFirst
  obtain ⟨level, asks⟩ := setsFirst
  obtain ⟨fixed, handlers⟩ :=
    run_of_first format process unconfigured before first after level quiet asks
  exact ⟨_, fixed, by rw [handlers, if_pos bare]⟩

end Process

/-- Logging is set up once in a process. Every logger is named inside the namespace, and a logger
made from the name of another is that logger. Of the events that set the log up the first one
decides, a logger by the level that was last assigned in the settings: whatever follows, the level
is the one asked for, and a handler has been added just where there was none. If it was added, each
call through any logger whose message can be formatted writes one line of the layout with the name
of the logger, or nothing if its severity is below that level. A level is asked for by its name in
any letter case, and any other name asks for the informative one. A message without arguments is its
own text; how arguments are put into a message is left open. -/
theorem logging_set_up_once (format : Formatter) :
    (∀ message : String, format.text? message [] = some message) ∧
    (∀ (message : String) (arguments : List Value), arguments ≠ [] →
      format.text? message arguments = format.fill? message arguments) ∧
    (∀ name : Option String,
      Logging.IsNamespaced (Logging.loggerName name) ∧
        Logging.loggerName (some (Logging.loggerName name)) = Logging.loggerName name) ∧
    (∀ (time : String) (severity : Severity) (logger text : String),
      Logging.line time severity logger text = String.ofList
        (Logging.fillLayout (Logging.partOf time severity logger text) none
          "%(asctime)s %(levelname)s [%(name)s] %(message)s".toList) ++ "\n") ∧
    (∀ row ∈ [("DEBUG", Severity.debug, 10), ("INFO", .info, 20), ("WARNING", .warning, 30),
        ("ERROR", .error, 40), ("CRITICAL", .critical, 50)],
      row.2.1.name = row.1 ∧ row.2.1.rank = row.2.2 ∧ Severity.ofName row.1 = row.2.1) ∧
    (∀ (name : String) (severity : Severity), Severity.ofName name = severity ↔
      Text.capitals name = severity.name ∨
        severity = .info ∧ ∀ other : Severity, Text.capitals name ≠ other.name) ∧
    ∀ (level : Option Severity) (handlers : List Handler) (settingsLevel : String),
      let start : Process := ⟨⟨false, level, handlers, settingsLevel⟩, [], ""⟩
      (∀ (before : List LogEvent) (first : LogEvent) (after : List LogEvent)
        (chosen : Option String), (∀ event ∈ before, event.setsUp = false) →
        first.level? (LogEvent.lastAssigned settingsLevel before) = some chosen →
        let final := (start.run format (before ++ first :: after)).logging
        final.level = some (Severity.ofName (chosen.getD "")) ∧
          final.handlers = (if handlers = [] then [.lines] else handlers) ∧
          final.handlers.length = max handlers.length 1) ∧
      ∀ (events : List LogEvent) (logger : String), logger ∈ (start.run format events).loggers →
        (∃ name, .makeLogger name ∈ events ∧ logger = Logging.loggerName name) ∧
        (handlers = [] → ∃ threshold, (start.run format events).logging.level = some threshold ∧
          ∀ (time : String) (severity : Severity) (message : String) (arguments : List Value)
            (text : String), format.text? message arguments = some text →
            (start.run format
                (events ++ [.call time ⟨severity, logger, message, arguments⟩])).output =
              (start.run format events).output ++
                if threshold.rank ≤ severity.rank then
                  Logging.line time severity logger text
                else "") := by
  refine ⟨fun _ => rfl, ?_, ?_, Logging.line_of_layout, by decide, Severity.of_name_eq_iff, ?_⟩
  · intro message arguments given
    rw [Formatter.text?, if_neg (by simpa using given)]
  · intro name
    have namespaced := Logging.logger_name_is_namespaced name
    exact ⟨namespaced, Logging.logger_name_of_is_namespaced _ namespaced⟩
  intro level handlers settingsLevel start
  constructor
  · intro before first after chosen quiet asks final
    obtain ⟨fixed, kept⟩ := start.run_of_first format rfl before first after chosen quiet asks
    refine ⟨fixed, kept, ?_⟩
    have same : final.handlers = if handlers = [] then [.lines] else handlers := kept
    cases handlers with
    | nil =>
        rw [same, if_pos rfl]
        rfl
    | cons handler others =>
        rw [same, if_neg (List.cons_ne_nil handler others)]
        simp
  · intro events logger made
    constructor
    · have listed := start.run_loggers format events
      rw [listed, List.nil_append, List.mem_filterMap] at made
      obtain ⟨event, member, makes⟩ := made
      cases event with
      | makeLogger name => exact ⟨name, member, (Option.some.inj makes).symm⟩
      | _ => cases makes
    · intro bare
      obtain ⟨threshold, fixed, lines⟩ :=
        start.exists_level_of_logger format rfl rfl bare events logger made
      refine ⟨threshold, fixed, ?_⟩
      intro time severity message arguments text formats
      let record : Record := ⟨severity, logger, message, arguments⟩
      have written := Logging.emit_of_lines _ threshold fixed lines format time record text formats
      rw [Process.run_concat, Process.next, if_pos made, written]

/-- A level is assigned, a logger is made, and both another level and a setup come too late. -/
theorem logging_set_up_once_by_logger :
    let format := Formatter.simple
    let start : Process := ⟨⟨false, none, [], "INFO"⟩, [], ""⟩
    let before : List LogEvent := [.assignLevel "warning"]
    let after : List LogEvent :=
      [.assignLevel "DEBUG", .setup (some "DEBUG"), .makeLogger (some "groqbuilder")]
    let events := before ++ .makeLogger (some "builder") :: after
    (start.run format events).logging.level = some .warning ∧
      (start.run format events).logging.handlers.length = 1 ∧
      "groqbuilder.builder" ∈ (start.run format events).loggers ∧
      (start.run format
          (events ++ [.call "noon" ⟨.error, "groqbuilder.builder", "%s!", [.text "No"]⟩])).output =
        (start.run format events).output ++
          Logging.line "noon" .error "groqbuilder.builder" "No!" := by
  intro format start before after events
  obtain ⟨_, _, _, _, _, _, ofStart⟩ := logging_set_up_once format
  obtain ⟨ofFirst, ofCalls⟩ := ofStart none [] "INFO"
  have quiet : ∀ event ∈ before, event.setsUp = false := by
    intro event member
    rw [List.mem_singleton.mp member]
    rfl
  obtain ⟨fixed, _, counted⟩ :=
    ofFirst before (.makeLogger (some "builder")) after (some "warning") quiet rfl
  have warning : Severity.ofName "warning" = .warning := by decide
  have made : "groqbuilder.builder" ∈ (start.run format events).loggers := by decide
  refine ⟨?_, counted, made, ?_⟩
  · exact fixed.trans (by rw [Option.getD_some, warning])
  · obtain ⟨threshold, level, written⟩ := (ofCalls events "groqbuilder.builder" made).2 rfl
    have same : threshold = .warning := by
      rw [fixed, Option.getD_some, warning] at level
      exact (Option.some.inj level).symm
    subst same
    exact written "noon" .error "%s!" [.text "No"] "No!" (by decide)

end GroqQuery
