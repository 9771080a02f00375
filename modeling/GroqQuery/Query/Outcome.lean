import GroqQuery.Log
import GroqQuery.Query.Edit

/-!
Runs of steps. A step on a state gives the next state, or a rejection that remembers the state it
was given; a rejection then passes through every later step unchanged and is what the query is
built as. Every rejection and every built text is logged once, where it arises.
-/

namespace GroqQuery

/-- A rejected input: the part it was for, what is said about it, and the last good state. -/
structure Rejection where
  part : Part
  message : String
  state : State
  deriving DecidableEq, Repr

namespace Rejection

def failure (rejection : Rejection) : Failure :=
  ⟨.invalid rejection.part, rejection.message, []⟩

end Rejection

inductive Outcome where
  | state (current : State)
  | rejected (rejection : Rejection)
  deriving DecidableEq, Repr

/-- The logger of everything that happens to a query. -/
def queryLogger : String := "groqbuilder.builder"

namespace State

def step (state : State) (step : Step) : Logged Outcome :=
  match step.edit? with
  | some edit => pure (.state (edit.apply state))
  | none => do
      Logged.emit .warning queryLogger "Rejected %s input of type %s"
        [.text step.part.word, .text step.input.typeName]
      pure (.rejected ⟨step.part, step.part.message, state⟩)

end State

/-- Why a query is built as no text: it carries a rejection, or its slice has none. -/
inductive BuildFault where
  | rejected (rejection : Rejection)
  | overlong
  deriving DecidableEq

def BuildFault.raised : BuildFault → Raised
  | .rejected rejection => rejection.failure.raised
  | .overlong => .overlong

namespace State

/-- A text is logged once it is there. -/
def build (state : State) : Logged (Except BuildFault String) :=
  match state.text? with
  | none => pure (.error .overlong)
  | some text => do
      Logged.emit .debug queryLogger "Built query=%s" [.text text]
      pure (.ok text)

end State

namespace Outcome

def step (outcome : Outcome) (step : Step) : Logged Outcome :=
  match outcome with
  | .state current => current.step step
  | .rejected rejection => pure (.rejected rejection)

def run (outcome : Outcome) (steps : List Step) : Logged Outcome :=
  steps.foldlM Outcome.step outcome

def build : Outcome → Logged (Except BuildFault String)
  | .state current => current.build
  | .rejected rejection => pure (.error (.rejected rejection))

def buildOrFail (outcome : Outcome) : Logged (Except Raised String) := do
  let built ← outcome.build
  pure (built.mapError BuildFault.raised)

end Outcome

end GroqQuery
