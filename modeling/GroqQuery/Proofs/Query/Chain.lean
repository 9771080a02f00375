import GroqQuery.Proofs.Query.Texts
import GroqQuery.Proofs.Reading
import GroqQuery.Proofs.Text.Quoted
import GroqQuery.Query.Chain

/-!
Chains and the runs they stand for. A chain goes through the same states and the same rejections as
a run of the steps that are chained, and its views tell which of them it holds. The settings count
when a chain is started and at no later moment.
-/

namespace GroqQuery

open Text

namespace Chain

def ofOutcome (outcome : Outcome) : Chain := ⟨.outcome outcome⟩

/-- Calls one after the other, each under the settings of its own moment. -/
def run : Chain → List (Preferences × Step) → Except ChainFault (Logged Chain)
  | chain, [] => .ok (pure chain)
  | chain, (preferences, step) :: calls => do
      let next ← chain.step preferences step
      let final ← next.value.run calls
      .ok (next >>= fun _ => final)

theorem wrap_outcome (preferences : Preferences) (outcome : Outcome) :
    wrap preferences (.outcome outcome) = .ok (ofOutcome outcome) := rfl

theorem step_of_outcome (preferences : Preferences) (outcome : Outcome) (step : Step) :
    (ofOutcome outcome).step preferences step = .ok (ofOutcome <$> outcome.step step) := by
  -- The settings would only count if there were nothing to wrap.
  let next := outcome.step step
  have wrapped : wrap preferences (.outcome next.value) = .ok (ofOutcome next.value) :=
    wrap_outcome preferences next.value
  have kept : ((Held.outcome <$> next) >>= fun _ => pure (ofOutcome next.value)) =
      ofOutcome <$> next := by
    rw [bind_map_left]
    exact bind_pure_comp ofOutcome next
  change (do
    let wrapped ← (wrap preferences (.outcome next.value)).mapError ChainFault.start
    Except.ok ((Held.outcome <$> next) >>= fun _ => pure wrapped)) = _
  rw [wrapped]
  exact congrArg Except.ok kept

theorem run_of_outcome (outcome : Outcome) (calls : List (Preferences × Step)) :
    (ofOutcome outcome).run calls =
      .ok (ofOutcome <$> outcome.run (calls.map Prod.snd)) := by
  induction calls generalizing outcome with
  | nil => rfl
  | cons call calls induction =>
      obtain ⟨preferences, step⟩ := call
      let next := outcome.step step
      let final := next.value.run (calls.map Prod.snd)
      have later : (ofOutcome next.value).run calls = .ok (ofOutcome <$> final) :=
        induction next.value
      have joined : ((ofOutcome <$> next) >>= fun _ => ofOutcome <$> final) =
          ofOutcome <$> (next >>= fun reached => reached.run (calls.map Prod.snd)) := by
        rw [bind_map_left, map_bind]
        rfl
      rw [run, step_of_outcome]
      change (do
        let final ← (ofOutcome next.value).run calls
        Except.ok ((ofOutcome <$> next) >>= fun _ => final)) = _
      rw [later]
      exact congrArg Except.ok joined

/-- What a chain lets its caller see, told from what a run has led to. -/
structure Shows (chain : Chain) (outcome : Outcome) : Prop where
  held : chain.held = .outcome outcome
  ok_iff : chain.ok = true ↔ ∃ state, outcome = .state state
  error?_eq_some : ∀ rejection, chain.error? = some rejection ↔ outcome = .rejected rejection
  lastState : chain.lastState = .ofState outcome.lastState
  build : chain.build = .ok outcome.build
  buildOrFail : chain.buildOrFail = .ok outcome.buildOrFail
  text : ∀ text, outcome.build.value = .ok text →
    Logged.value <$> chain.display? = .ok (some text) ∧
      Logged.value <$> chain.inspect? = .ok (some ("<Query: " ++ text ++ ">"))
  rejection : ∀ rejection, outcome.build.value = .error (.rejected rejection) →
    Logged.value <$> chain.display? =
        .ok (some ("<invalid query: " ++ rejection.message ++ ">")) ∧
      Logged.value <$> chain.inspect? =
        .ok (some ("<Query error=" ++ quoted rejection.message ++ ">"))
  overlong : outcome.build.value = .error .overlong →
    Logged.value <$> chain.display? = .ok none ∧ Logged.value <$> chain.inspect? = .ok none

theorem display_state (state : State) :
    Logged.value <$> (ofOutcome (.state state)).display? = .ok state.text? := by
  change Except.ok (Logged.value ((Outcome.state state).build >>= _)) = _
  rw [Logged.value_bind, Outcome.build_state]
  cases state.text? <;> rfl

theorem inspect_state (state : State) :
    Logged.value <$> (ofOutcome (.state state)).inspect? =
      .ok (state.text?.map fun text => "<Query: " ++ text ++ ">") := by
  have shown := display_state state
  change (fun logged => Logged.value (Option.map _ <$> logged)) <$>
    (ofOutcome (.state state)).display? = _
  obtain ⟨built, displayed, written⟩ := (map_eq_ok _ _ _).mp shown
  rw [displayed, ← written]
  rfl

theorem shows_state (current : State) :
    (ofOutcome (.state current)).Shows (.state current) := by
  constructor
  case held => rfl
  case ok_iff => exact ⟨fun _ => ⟨current, rfl⟩, fun _ => rfl⟩
  case error?_eq_some =>
    intro rejection
    constructor <;> intro other <;> cases other
  case lastState => rfl
  case build => rfl
  case buildOrFail => rfl
  case text =>
    intro text built
    rw [Outcome.build_state_eq_ok_iff] at built
    rw [display_state, inspect_state, built]
    exact ⟨rfl, rfl⟩
  case rejection =>
    intro rejection built
    rw [Outcome.build_state] at built
    cases found : current.text? <;> simp [found] at built
  case overlong =>
    intro built
    rw [Outcome.build_state] at built
    cases found : current.text? with
    | none =>
        rw [display_state, inspect_state, found]
        exact ⟨rfl, rfl⟩
    | some text => simp [found] at built

theorem shows_rejected (rejection : Rejection) :
    (ofOutcome (.rejected rejection)).Shows (.rejected rejection) := by
  constructor
  case held => rfl
  case ok_iff =>
    constructor
    · intro other
      cases other
    · intro other
      obtain ⟨_, other⟩ := other
      cases other
  case error?_eq_some =>
    intro other
    constructor <;> intro same <;> cases same <;> rfl
  case lastState => rfl
  case build => rfl
  case buildOrFail => rfl
  case text =>
    intro text built
    cases built
  case rejection =>
    intro other built
    cases built
    exact ⟨rfl, rfl⟩
  case overlong =>
    intro built
    cases built

theorem shows_of_outcome (outcome : Outcome) : (ofOutcome outcome).Shows outcome := by
  cases outcome with
  | state current => exact shows_state current
  | rejected rejection => exact shows_rejected rejection

end Chain

/-- A chain does what its steps do without it. It starts as a query does, and where a query does not
start, no chain does. Whatever is called on it afterwards and whatever becomes of the settings, it
holds what the steps lead to, with the same records, and shows just that. Up to the first rejected
step this is a state; from then on it is the rejection of that step, with the state that was reached
before it and with its message, which is shown as it is or between two quotes. -/
theorem chains_follow_runs :
    (∀ preferences : Preferences,
      Chain.wrap preferences (.other .null) = Chain.start preferences .null .null) ∧
    (∀ (preferences : Preferences) (includeDrafts base : Value),
      Chain.start preferences includeDrafts base =
        (State.start preferences includeDrafts base).map fun start =>
          Chain.ofOutcome (.state start)) ∧
    ∀ (start : State) (calls : List (Preferences × Step)),
      let steps := calls.map Prod.snd
      let outcome := (Outcome.run (.state start) steps).value
      let chain := Chain.ofOutcome outcome
      (Chain.ofOutcome (.state start)).run calls =
          .ok (Chain.ofOutcome <$> Outcome.run (.state start) steps) ∧
        chain.Shows outcome ∧
        match steps.find? Step.isRejected with
        | none => ∃ state, outcome = .state state
        | some step => ∃ last,
            (Outcome.run (.state start) (steps.takeWhile fun step => !step.isRejected)).value =
              .state last ∧
            outcome = .rejected ⟨step.part, step.part.message, last⟩ ∧
            Logged.value <$> chain.display? =
              .ok (some ("<invalid query: " ++ step.part.message ++ ">")) ∧
            Logged.value <$> chain.inspect? =
              .ok (some ("<Query error='" ++ step.part.message ++ "'>")) := by
  constructor
  · intro preferences
    rfl
  constructor
  · intro preferences includeDrafts base
    rw [Chain.start]
    cases State.start preferences includeDrafts base with
    | error faults => rfl
    | ok start => rfl
  · intro start calls steps outcome chain
    have reached : outcome = _ := Outcome.run_state start steps
    constructor
    · exact Chain.run_of_outcome (.state start) calls
    constructor
    · exact Chain.shows_of_outcome outcome
    cases first : steps.find? Step.isRejected with
    | none =>
        rw [first] at reached
        exact ⟨_, reached⟩
    | some step =>
        rw [first] at reached
        have accepted : ∀ step ∈ steps.takeWhile fun step => !step.isRejected,
            step.isRejected = false := by
          intro step member
          simpa using List.all_eq_true.mp List.all_takeWhile step member
        have carried : outcome.build.value = .error (.rejected ⟨step.part, step.part.message, _⟩) :=
          congrArg (fun outcome : Outcome => outcome.build.value) reached
        obtain ⟨displayed, inspected⟩ := (Chain.shows_of_outcome outcome).rejection _ carried
        have marks : "<Query error=" ++ quoted step.part.message ++ ">" =
            "<Query error='" ++ step.part.message ++ "'>" := by
          rw [step.part.quoted_message, ← String.toList_inj]
          simp
        rw [marks] at inspected
        exact ⟨_, Outcome.run_accepted start _ accepted, reached, displayed, inspected⟩

end GroqQuery
