import GroqQuery.Proofs.Query.Inputs
import GroqQuery.Proofs.Query.Run
import GroqQuery.Proofs.Query.Texts
import Mathlib.Data.List.Induction

/-!
What a run of accepted steps makes of a state, told from the inputs alone and part by part. Filters
and projections grow by what their inputs are read as, in order; of the inputs for any other part
the last one counts. Inputs for different parts never meet, so it does not matter how they are
interleaved.
-/

namespace GroqQuery

def Step.inputsFor (steps : List Step) (part : Part) : List Value :=
  (steps.filter fun step => step.part = part).map Step.input

theorem Step.inputs_for_append (steps : List Step) (step : Step) :
    inputsFor (steps ++ [step]) =
      Function.update (inputsFor steps) step.part (inputsFor steps step.part ++ [step.input]) := by
  funext part
  by_cases own : part = step.part
  · subst own
    simp [inputsFor]
  · have other : ¬step.part = part := fun same => own same.symm
    rw [Function.update_of_ne own]
    simp [inputsFor, other]

/-- A part that grows: behind what was there stands what each of the inputs is read as. -/
def Grown {Item Fault : Type} (read : Value → Except Fault (List Item)) (before : List Item)
    (inputs : List Value) (after : List Item) : Prop :=
  ∃ added : List (List Item), inputs.map read = added.map .ok ∧ after = before ++ added.flatten

namespace Grown

variable {Item Fault : Type} {read : Value → Except Fault (List Item)} {before : List Item}

theorem refl : Grown read before [] before := ⟨[], rfl, by simp⟩

theorem append {inputs : List Value} {middle : List Item}
    (grown : Grown read before inputs middle) (input : Value) (items : List Item)
    (reads : read input = .ok items) :
    Grown read before (inputs ++ [input]) (middle ++ items) := by
  obtain ⟨added, each, rfl⟩ := grown
  refine ⟨added ++ [items], ?_, ?_⟩
  · simp [each, reads]
  · simp [List.append_assoc]

theorem unique {inputs : List Value} {left right : List Item}
    (toLeft : Grown read before inputs left) (toRight : Grown read before inputs right) :
    left = right := by
  obtain ⟨added, each, rfl⟩ := toLeft
  obtain ⟨others, eachOther, rfl⟩ := toRight
  rw [each] at eachOther
  rw [(List.map_inj_right fun _ _ => Except.ok.inj).mp eachOther]

end Grown

/-- A part that is replaced: the last input gives it, and without an input it stays. -/
def Replaced {Content : Type} (gives : Value → Content → Prop) (before : Content)
    (inputs : List Value) (after : Content) : Prop :=
  match inputs.getLast? with
  | none => after = before
  | some input => gives input after

namespace Replaced

variable {Content : Type} {gives : Value → Content → Prop} {before : Content}

theorem refl : Replaced gives before [] before := rfl

theorem append (inputs : List Value) (input : Value) (after : Content)
    (given : gives input after) : Replaced gives before (inputs ++ [input]) after := by
  rw [Replaced, List.getLast?_concat]
  exact given

theorem unique {inputs : List Value} {left right : Content}
    (single : ∀ input left right, gives input left → gives input right → left = right)
    (toLeft : Replaced gives before inputs left) (toRight : Replaced gives before inputs right) :
    left = right := by
  unfold Replaced at toLeft toRight
  cases last : inputs.getLast? with
  | none =>
      simp only [last] at toLeft toRight
      rw [toLeft, toRight]
  | some input =>
      simp only [last] at toLeft toRight
      exact single input left right toLeft toRight

end Replaced

namespace State

/-- How the state at the end of a run comes from the state at its start and from the inputs for
each part. An input that asks for no limit takes none away. -/
structure ClosedForm (start : State) (inputs : Part → List Value) (final : State) : Prop where
  base : final.base = start.base
  filters : Grown Filter.read start.filters (inputs .filter) final.filters
  projections : Grown Projection.read start.projections (inputs .projection) final.projections
  qualifier : Replaced (fun input qualifier => input = .text qualifier) start.qualifier
    (inputs .qualifier) final.qualifier
  order : Replaced Value.GivesOrder start.order (inputs .order) final.order
  limit : Replaced (fun input limit => ∃ slice, input.GivesSlice slice ∧ limit = some slice)
    start.limit ((inputs .limit).filter fun input => !input.isNoLimit) final.limit

namespace ClosedForm

theorem refl (start : State) : ClosedForm start (Step.inputsFor []) start :=
  ⟨rfl, Grown.refl, Grown.refl, Replaced.refl, Replaced.refl, Replaced.refl⟩

theorem append {start middle : State} {inputs : Part → List Value}
    (closed : ClosedForm start inputs middle) (step : Step) (edit : Edit)
    (reads : step.edit? = some edit) :
    ClosedForm start (Function.update inputs step.part (inputs step.part ++ [step.input]))
      (edit.apply middle) := by
  obtain ⟨part, input⟩ := step
  cases part with
  | filter =>
      obtain ⟨added, given, rfl⟩ := (Step.filter_edit_eq_some input edit).mp reads
      exact { closed with filters := closed.filters.append input added given }
  | projection =>
      obtain ⟨added, given, rfl⟩ := (Step.projection_edit_eq_some input edit).mp reads
      exact { closed with projections := closed.projections.append input added given }
  | qualifier =>
      obtain ⟨qualifier, given, rfl⟩ := (Step.qualifier_edit_eq_some input edit).mp reads
      exact { closed with qualifier := Replaced.append _ input qualifier given }
  | order =>
      obtain ⟨terms, given, rfl⟩ := (Step.order_edit_eq_some input edit).mp reads
      exact { closed with order := Replaced.append _ input terms given }
  | limit =>
      rcases (Step.limit_edit_eq_some input edit).mp reads with
        ⟨unlimited, rfl⟩ | ⟨slice, given, proper, rfl⟩
      · have same : ((inputs .limit ++ [input]).filter fun input => !input.isNoLimit) =
            (inputs .limit).filter fun input => !input.isNoLimit := by
          simp [unlimited]
        exact { closed with limit := same ▸ closed.limit }
      · have limited : input.isNoLimit = false :=
          Value.GivesSlice.not_is_no_limit input slice given proper
        have added : ((inputs .limit ++ [input]).filter fun input => !input.isNoLimit) =
            ((inputs .limit).filter fun input => !input.isNoLimit) ++ [input] := by
          simp [limited]
        exact { closed with limit := added ▸ Replaced.append _ input _ ⟨slice, given, rfl⟩ }

theorem apply_all (start : State) (steps : List Step)
    (accepted : ∀ step ∈ steps, step.isRejected = false) :
    ClosedForm start (Step.inputsFor steps) (start.applyAll (steps.filterMap Step.edit?)) := by
  -- Steps are taken off at the end, where the last input for a part stands.
  induction steps using List.reverseRecOn with
  | nil => exact refl start
  | append_singleton steps step induction =>
      have before := induction fun other member => accepted other (by simp [member])
      have last := accepted step (by simp)
      cases reads : step.edit? with
      | none => simp [Step.isRejected, reads] at last
      | some edit =>
          have after := before.append step edit reads
          rw [Step.inputs_for_append, List.filterMap_append]
          simpa [reads, State.applyAll] using after

theorem unique {start left right : State} {inputs : Part → List Value}
    (toLeft : ClosedForm start inputs left) (toRight : ClosedForm start inputs right) :
    left = right := by
  have base := toLeft.base.trans toRight.base.symm
  have filters := toLeft.filters.unique toRight.filters
  have projections := toLeft.projections.unique toRight.projections
  have qualifier := toLeft.qualifier.unique
    (fun _ _ _ first second => Value.text.inj (first.symm.trans second)) toRight.qualifier
  have order := toLeft.order.unique Value.GivesOrder.unique toRight.order
  have limit : left.limit = right.limit := by
    apply toLeft.limit.unique _ toRight.limit
    rintro input _ _ ⟨slice, given, rfl⟩ ⟨other, givenOther, rfl⟩
    rw [Value.GivesSlice.unique input slice other given givenOther]
  cases left
  cases right
  simp_all

end ClosedForm

end State

/-- A run of accepted steps in closed form: what the steps add comes behind what was there, in
order, and of what they replace the last counts. Runs that give every part the same inputs in the
same order therefore end in the same state and are built alike, however the parts are interleaved.
-/
theorem accepted_run_closed_form :
    (∀ (start : State) (steps : List Step), (∀ step ∈ steps, step.isRejected = false) →
      ∃ final, (Outcome.run (.state start) steps).value = .state final ∧
        State.ClosedForm start (Step.inputsFor steps) final) ∧
    ∀ (start : State) (steps others : List Step),
      (∀ step ∈ steps, step.isRejected = false) → (∀ step ∈ others, step.isRejected = false) →
      (∀ part, Step.inputsFor steps part = Step.inputsFor others part) →
      ∃ final, (Outcome.run (.state start) steps).value = .state final ∧
        (Outcome.run (.state start) others).value = .state final ∧
        (Outcome.run (.state start) steps).value.build.value =
          (Outcome.run (.state start) others).value.build.value ∧
        ((∃ text, (Outcome.run (.state start) steps).value.build.value = .ok text) ↔
          final.HasText) := by
  constructor
  · intro start steps accepted
    exact ⟨_, Outcome.run_accepted start steps accepted,
      State.ClosedForm.apply_all start steps accepted⟩
  · intro start steps others accepted acceptedOthers same
    have reached := Outcome.run_accepted start steps accepted
    have reachedOther := Outcome.run_accepted start others acceptedOthers
    have closed := State.ClosedForm.apply_all start steps accepted
    have closedOther := State.ClosedForm.apply_all start others acceptedOthers
    rw [← funext same] at closedOther
    rw [closedOther.unique closed] at reachedOther
    refine ⟨_, reached, reachedOther, ?_, ?_⟩
    · rw [reached, reachedOther]
    · rw [reached]
      exact Outcome.exists_build_state_iff _

/-- Filters and projections around an order that is set twice and a limit that is not taken away,
and the same steps part by part. -/
theorem accepted_run_closed_form_interleaved :
    let steps : List Step :=
      [⟨.order, .text "name"⟩, ⟨.filter, .map [(.text "a", .int 1)]⟩,
        ⟨.limit, .tuple [.int 5, .int 10]⟩, ⟨.projection, .list [.text "title", .text "body"]⟩,
        ⟨.filter, .list [.text "b", .bool true]⟩, ⟨.limit, .int 0⟩,
        ⟨.order, .list [.text "date desc", .text "name"]⟩, ⟨.projection, .text "slug"⟩]
    let others : List Step :=
      [⟨.projection, .list [.text "title", .text "body"]⟩, ⟨.projection, .text "slug"⟩,
        ⟨.filter, .map [(.text "a", .int 1)]⟩, ⟨.filter, .list [.text "b", .bool true]⟩,
        ⟨.order, .text "name"⟩, ⟨.order, .list [.text "date desc", .text "name"]⟩,
        ⟨.limit, .tuple [.int 5, .int 10]⟩, ⟨.limit, .int 0⟩]
    ∃ final, (Outcome.run (.state {}) steps).value = .state final ∧
      (Outcome.run (.state {}) others).value = .state final ∧
      final.filters = [.equals "a" "1", .equals "b" "true"] ∧
      final.limit = some (.window 5 10) := by
  intro steps others
  have accepted : ∀ step ∈ steps, step.isRejected = false := by decide
  have acceptedOthers : ∀ step ∈ others, step.isRejected = false := by decide
  obtain ⟨final, reached, reachedOther, _⟩ :=
    accepted_run_closed_form.2 {} steps others accepted acceptedOthers
      (fun part => by cases part <;> rfl)
  obtain ⟨closed, reachedClosed, form⟩ := accepted_run_closed_form.1 {} steps accepted
  cases reached.symm.trans reachedClosed
  refine ⟨final, reached, reachedOther, ?_, ?_⟩
  · exact form.filters.unique ⟨[[.equals "a" "1"], [.equals "b" "true"]], rfl, rfl⟩
  · obtain ⟨slice, given, limited⟩ := form.limit
    rw [limited, Value.GivesSlice.unique _ slice (.window 5 10) given rfl]

end GroqQuery
