import GroqQuery.Text.Capitals
import GroqQuery.Value

/-!
Log records, and computations that leave records behind beside their result. A record keeps its
message and the arguments apart, for the message is put together only where the record is written.
-/

namespace GroqQuery

inductive Severity where
  | debug
  | info
  | warning
  | error
  | critical
  deriving DecidableEq, Repr

namespace Severity

def all : List Severity := [.critical, .error, .warning, .info, .debug]

def name : Severity → String
  | .debug => "DEBUG"
  | .info => "INFO"
  | .warning => "WARNING"
  | .error => "ERROR"
  | .critical => "CRITICAL"

def rank : Severity → Nat
  | .debug => 10
  | .info => 20
  | .warning => 30
  | .error => 40
  | .critical => 50

def ofName? (name : String) : Option Severity :=
  named? all Severity.name (Text.capitals name)

theorem of_name_eq_some (name : String) (severity : Severity) :
    ofName? name = some severity ↔ Text.capitals name = severity.name := by
  apply named_eq_some_iff
  · intro severity
    cases severity <;> decide
  · intro left right
    cases left <;> cases right <;> decide

/-- Every other name, the empty one too, stands for the informative level. -/
def ofName (name : String) : Severity :=
  (ofName? name).getD .info

theorem of_name_eq_iff (name : String) (severity : Severity) :
    ofName name = severity ↔
      Text.capitals name = severity.name ∨
        severity = .info ∧ ∀ other : Severity, Text.capitals name ≠ other.name := by
  have unnamed : ofName? name = none ↔ ∀ other : Severity, Text.capitals name ≠ other.name := by
    rw [Option.eq_none_iff_forall_ne_some]
    exact forall_congr' fun other => not_congr (of_name_eq_some name other)
  rw [← unnamed, ← of_name_eq_some, ofName]
  cases ofName? name with
  | none => simp [eq_comm]
  | some found => simp

end Severity

structure Record where
  severity : Severity
  logger : String
  message : String
  arguments : List Value

def Record.atLeast (level : Severity) (records : List Record) : List Record :=
  records.filter fun record => level.rank ≤ record.severity.rank

/-- A result together with the records made on the way to it, in order. -/
structure Logged (α : Type) where
  value : α
  records : List Record

namespace Logged

instance : Monad Logged where
  pure value := ⟨value, []⟩
  bind logged next :=
    let result := next logged.value
    ⟨result.value, logged.records ++ result.records⟩

instance : LawfulMonad Logged :=
  LawfulMonad.mk' Logged
    (fun logged => by simp [Functor.map, List.append_nil])
    (fun _ _ => by simp [bind, pure])
    (fun _ _ _ => by simp [bind, List.append_assoc])

def emit (severity : Severity) (logger message : String) (arguments : List Value) : Logged Unit :=
  ⟨(), [⟨severity, logger, message, arguments⟩]⟩

@[simp] theorem records_pure {α : Type} (value : α) : (pure value : Logged α).records = [] := rfl

@[simp] theorem value_bind {α β : Type} (logged : Logged α) (next : α → Logged β) :
    (logged >>= next).value = (next logged.value).value := rfl

@[simp] theorem records_bind {α β : Type} (logged : Logged α) (next : α → Logged β) :
    (logged >>= next).records = logged.records ++ (next logged.value).records := rfl

@[simp] theorem records_map {α β : Type} (change : α → β) (logged : Logged α) :
    (change <$> logged).records = logged.records := by
  simp [Functor.map]

end Logged

end GroqQuery
