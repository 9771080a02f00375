import GroqQuery.Query.Outcome
import GroqQuery.Query.Start

/-!
Queries as callers hold them. What a caller hands back may be no query at all, which is answered as
a misuse and never as a rejection. A chain wraps what is held and adds views of it: whether it is
still good, what went wrong, and how it reads.
-/

namespace GroqQuery

open Text

inductive Held where
  | outcome (outcome : Outcome)
  | other (value : Value)

/-- Something was used as a query that is none. -/
structure Misuse where
  found : Value

namespace Misuse

def message (misuse : Misuse) : String :=
  "query must be a QueryState or QueryError, got " ++ misuse.found.typeName

end Misuse

namespace Held

def ofState (state : State) : Held := .outcome (.state state)

def outcome? : Held → Except Misuse Outcome
  | .outcome result => .ok result
  | .other value => .error ⟨value⟩

def step (held : Held) (step : Step) : Except Misuse (Logged Held) := do
  let outcome ← held.outcome?
  .ok (.outcome <$> outcome.step step)

def build (held : Held) : Except Misuse (Logged (Except BuildFault String)) := do
  let outcome ← held.outcome?
  .ok outcome.build

def buildOrFail (held : Held) : Except Misuse (Logged (Except Raised String)) := do
  let outcome ← held.outcome?
  .ok outcome.buildOrFail

def rejection? : Held → Option Rejection
  | .outcome (.rejected rejection) => some rejection
  | _ => none

end Held

structure Chain where
  held : Held

/-- Why a step on a chain gives no chain: the chain holds no query, or there was nothing to wrap and
the settings allow no new query. -/
inductive ChainFault where
  | misuse (misuse : Misuse)
  | start (fault : StartFault)

namespace Chain

/-- A chain around what is given, or around a new query if that is nothing. -/
def wrap (preferences : Preferences) : Held → Except StartFault Chain
  | .other .null => do
      let state ← State.start preferences .null .null
      .ok ⟨.ofState state⟩
  | held => .ok ⟨held⟩

def start (preferences : Preferences) (includeDrafts base : Value) :
    Except StartFault Chain := do
  let state ← State.start preferences includeDrafts base
  wrap preferences (.ofState state)

/-- What a step gives is wrapped like anything else, and keeps the records of the step. -/
def step (preferences : Preferences) (chain : Chain) (step : Step) :
    Except ChainFault (Logged Chain) := do
  let next ← (chain.held.step step).mapError .misuse
  let wrapped ← (wrap preferences next.value).mapError .start
  .ok (next >>= fun _ => pure wrapped)

def build (chain : Chain) : Except Misuse (Logged (Except BuildFault String)) :=
  chain.held.build

def buildOrFail (chain : Chain) : Except Misuse (Logged (Except Raised String)) :=
  chain.held.buildOrFail

def ok (chain : Chain) : Bool :=
  match chain.held with
  | .outcome (.state _) => true
  | _ => false

def error? (chain : Chain) : Option Rejection :=
  chain.held.rejection?

def lastState (chain : Chain) : Held :=
  match chain.held with
  | .outcome (.rejected rejection) => .ofState rejection.state
  | held => held

/-- A query shows its text, which is built for it, or the message of its rejection. It cannot be
shown without either. -/
def display? (chain : Chain) : Except Misuse (Logged (Option String)) := do
  let built ← chain.build
  .ok do
    match ← built with
    | .ok text => pure (some text)
    | .error (.rejected rejection) =>
        pure (some ("<invalid query: " ++ rejection.message ++ ">"))
    | .error .overlong => pure none

/-- A good query shows its text, which is built for it; a rejection shows its message in quotes. -/
def inspect? (chain : Chain) : Except Misuse (Logged (Option String)) :=
  match chain.error? with
  | some rejection => .ok (pure (some ("<Query error=" ++ quoted rejection.message ++ ">")))
  | none => do
      let built ← chain.display?
      .ok (Option.map (fun text => "<Query: " ++ text ++ ">") <$> built)

end Chain

end GroqQuery
