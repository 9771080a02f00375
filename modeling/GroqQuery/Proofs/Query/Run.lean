import GroqQuery.Query.Outcome
import Mathlib.Data.List.TakeWhile

/-!
Runs of steps. Whether a step is rejected is a matter of its input alone. A run applies the edits of
its steps one after the other, up to the first rejected step, and ends in the rejection of that step
with the state that was reached before it; no later step changes anything.
-/

namespace GroqQuery

namespace Step

def isRejected (step : Step) : Bool := step.edit?.isNone

end Step

namespace State

def applyAll (state : State) (edits : List Edit) : State := edits.foldl Edit.apply state

theorem step_of_edit (state : State) (step : Step) (edit : Edit)
    (reads : step.edit? = some edit) : (state.step step).value = .state (edit.apply state) := by
  rw [State.step, reads]
  rfl

theorem step_of_rejected (state : State) (step : Step) (rejected : step.isRejected = true) :
    (state.step step).value = .rejected ⟨step.part, step.part.message, state⟩ := by
  have unread : step.edit? = none := by simpa [Step.isRejected] using rejected
  rw [State.step, unread]
  rfl

theorem step_eq_rejected_iff (state : State) (step : Step) :
    (state.step step).value = .rejected ⟨step.part, step.part.message, state⟩ ↔
      step.isRejected = true := by
  constructor
  · intro rejected
    rw [Step.isRejected, Option.isNone_iff_eq_none, Option.eq_none_iff_forall_ne_some]
    intro edit reads
    rw [step_of_edit state step edit reads] at rejected
    cases rejected
  · exact step_of_rejected state step

theorem step_rejects_iff (state : State) (step : Step) :
    (∃ rejection, (state.step step).value = .rejected rejection) ↔ step.isRejected = true := by
  cases reads : step.edit? with
  | none =>
      have rejected : step.isRejected = true := by simp [Step.isRejected, reads]
      simp [step_of_rejected state step rejected, rejected]
  | some edit => simp [step_of_edit state step edit reads, Step.isRejected, reads]

end State

namespace Edit

theorem apply_base (state : State) (edit : Edit) : (edit.apply state).base = state.base := by
  cases edit <;> rfl

theorem apply_filters (state : State) (edit : Edit) :
    state.filters <+: (edit.apply state).filters := by
  cases edit with
  | addFilters added => exact List.prefix_append _ _
  | _ => exact List.prefix_refl _

end Edit

namespace State

theorem apply_all_base (state : State) (edits : List Edit) :
    (state.applyAll edits).base = state.base := by
  induction edits generalizing state with
  | nil => rfl
  | cons edit edits induction =>
      change ((edit.apply state).applyAll edits).base = state.base
      rw [induction, Edit.apply_base]

theorem apply_all_filters (state : State) (edits : List Edit) :
    state.filters <+: (state.applyAll edits).filters := by
  induction edits generalizing state with
  | nil => exact List.prefix_refl _
  | cons edit edits induction =>
      exact (Edit.apply_filters state edit).trans (induction (edit.apply state))

end State

namespace Outcome

theorem run_cons (outcome : Outcome) (step : Step) (steps : List Step) :
    (outcome.run (step :: steps)).value = ((outcome.step step).value.run steps).value := rfl

theorem step_congr (outcome : Outcome) (part : Part) (input other : Value)
    (same : Step.edit? ⟨part, input⟩ = Step.edit? ⟨part, other⟩) :
    (outcome.step ⟨part, input⟩).value = (outcome.step ⟨part, other⟩).value := by
  cases outcome with
  | rejected rejection => rfl
  | state current =>
      simp only [Outcome.step, State.step, same]
      cases Step.edit? ⟨part, other⟩ <;> rfl

theorem step_together (outcome : Outcome) (first second whole : Step) (edit next joined : Edit)
    (reads : first.edit? = some edit) (readsNext : second.edit? = some next)
    (readsWhole : whole.edit? = some joined)
    (composed : ∀ state, next.apply (edit.apply state) = joined.apply state) :
    ((outcome.step first).value.step second).value = (outcome.step whole).value := by
  cases outcome with
  | rejected rejection => rfl
  | state current =>
      simp only [Outcome.step]
      rw [State.step_of_edit current first edit reads,
        State.step_of_edit current whole joined readsWhole]
      simp only
      rw [State.step_of_edit _ second next readsNext, composed]

theorem run_rejected (rejection : Rejection) (steps : List Step) :
    (Outcome.run (.rejected rejection) steps).value = .rejected rejection := by
  induction steps with
  | nil => rfl
  | cons step steps induction => exact induction

theorem run_state (start : State) (steps : List Step) :
    (Outcome.run (.state start) steps).value =
      match steps.find? Step.isRejected with
      | none => .state (start.applyAll (steps.filterMap Step.edit?))
      | some step => .rejected ⟨step.part, step.part.message,
          start.applyAll
            ((steps.takeWhile fun step => !step.isRejected).filterMap Step.edit?)⟩ := by
  -- An accepted step changes the state that the others start from, so the start is not fixed.
  induction steps generalizing start with
  | nil => rfl
  | cons step steps induction =>
      rw [run_cons]
      cases reads : step.edit? with
      | none =>
          have rejected : step.isRejected = true := by simp [Step.isRejected, reads]
          have first : (Outcome.step (.state start) step).value = _ :=
            State.step_of_rejected start step rejected
          rw [first, run_rejected]
          simp [rejected, State.applyAll]
      | some edit =>
          have accepted : step.isRejected = false := by simp [Step.isRejected, reads]
          have first : (Outcome.step (.state start) step).value = _ :=
            State.step_of_edit start step edit reads
          rw [first, induction]
          simp [accepted, reads, State.applyAll]

theorem run_accepted (start : State) (steps : List Step)
    (accepted : ∀ step ∈ steps, step.isRejected = false) :
    (Outcome.run (.state start) steps).value =
      .state (start.applyAll (steps.filterMap Step.edit?)) := by
  have none : steps.find? Step.isRejected = none := by
    rw [List.find?_eq_none]
    intro step member
    simp [accepted step member]
  rw [run_state, none]

/-- The current state, or behind a rejection the state that was kept. -/
def lastState : Outcome → State
  | .state current => current
  | .rejected rejection => rejection.state

/-- What holds of a state and survives every accepted input holds at the end of every run. -/
theorem run_keeps {invariant : State → Prop}
    (kept : ∀ (state : State) (step : Step) (edit : Edit), step.edit? = some edit →
      invariant state → invariant (edit.apply state))
    (outcome : Outcome) (holds : invariant outcome.lastState) (steps : List Step) :
    invariant (outcome.run steps).value.lastState := by
  induction steps generalizing outcome with
  | nil => exact holds
  | cons step steps induction =>
      rw [run_cons]
      apply induction
      cases outcome with
      | rejected rejection => exact holds
      | state current =>
          change invariant (current.step step).value.lastState
          cases reads : step.edit? with
          | none =>
              rw [State.step_of_rejected current step (by simp [Step.isRejected, reads])]
              exact holds
          | some edit =>
              rw [State.step_of_edit current step edit reads]
              exact kept current step edit reads holds

theorem run_edits (start : State) (steps : List Step) (edits : List Edit)
    (reads : steps.map Step.edit? = edits.map some) :
    (Outcome.run (.state start) steps).value = .state (start.applyAll edits) := by
  have taken : steps.filterMap Step.edit? = edits := by
    calc steps.filterMap Step.edit?
        = (steps.map Step.edit?).filterMap id := by rw [List.filterMap_map, Function.id_comp]
      _ = (edits.map some).filterMap id := by rw [reads]
      _ = edits := by rw [List.filterMap_map, Function.id_comp, List.filterMap_some]
  rw [run_accepted start steps, taken]
  intro step member
  have given : step.edit? ∈ edits.map some := reads ▸ List.mem_map_of_mem member
  obtain ⟨edit, _, same⟩ := List.mem_map.mp given
  simp [Step.isRejected, ← same]

/-- The first rejection of a run is final. Which step is rejected depends on the inputs alone, the
rejection carries exactly what the steps before it led to, and from then on every step and every
build answers with it. -/
theorem run_ends_in_first_rejection :
    (∀ (state : State) (step : Step),
      (∃ rejection, (state.step step).value = .rejected rejection) ↔ step.isRejected = true) ∧
    (∀ (start : State) (steps : List Step), ∃ last,
      (Outcome.run (.state start) (steps.takeWhile fun step => !step.isRejected)).value =
        .state last ∧
      (Outcome.run (.state start) steps).value =
        match steps.find? Step.isRejected with
        | none => .state last
        | some step => .rejected ⟨step.part, step.part.message, last⟩) ∧
    ∀ rejection : Rejection,
      (∀ steps, (Outcome.run (.rejected rejection) steps).value = .rejected rejection) ∧
      (Outcome.build (.rejected rejection)).value = .error (.rejected rejection) ∧
      (Outcome.buildOrFail (.rejected rejection)).value = .error (.failure rejection.failure) ∧
      rejection.failure.kind = .invalid rejection.part ∧
      .validation ∈ rejection.failure.kind.lineage ∧
      rejection.failure.text? = some rejection.message := by
  refine ⟨State.step_rejects_iff, ?_, ?_⟩
  · intro start steps
    let before := steps.takeWhile fun step => !step.isRejected
    have accepted : ∀ step ∈ before, step.isRejected = false := by
      intro step member
      simpa using List.all_eq_true.mp List.all_takeWhile step member
    refine ⟨start.applyAll (before.filterMap Step.edit?), run_accepted start before accepted, ?_⟩
    rw [run_state]
    cases found : steps.find? Step.isRejected with
    | some step => rfl
    | none =>
        have whole : before = steps := by
          rw [List.takeWhile_eq_self_iff]
          intro step member
          simpa using List.find?_eq_none.mp found step member
        rw [whole]
  · intro rejection
    refine ⟨run_rejected rejection, rfl, rfl, rfl, ?_, rfl⟩
    exact List.mem_cons_of_mem _ (List.mem_cons_self)

-- The first clause of the rejected list would have been accepted, yet nothing of it is kept.
example :
    (Outcome.run (.state {})
      [⟨.qualifier, .text "[0]"⟩,
        ⟨.filter, .list [.map [(.text "a", .int 1)], .list [.list [.text "b"]]]⟩,
        ⟨.projection, .text "title"⟩]).value =
      .rejected ⟨.filter, Part.filter.message, { qualifier := "[0]" }⟩ := by
  rfl

end Outcome

end GroqQuery
