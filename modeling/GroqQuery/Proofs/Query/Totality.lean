import GroqQuery.Proofs.Query.Start
import GroqQuery.Proofs.Query.Texts
import GroqQuery.Proofs.Rendering
import GroqQuery.Query.Chain

/-!
What can go wrong with a query. Rendering refuses values that are no finished clauses or items, and
a query refuses to go on from something that is no query; but once a query is started, no inputs
bring either about. Its steps always answer, if need be with a rejection, and so do its builds
unless the slice has a number in it that cannot be written.
-/

namespace GroqQuery

namespace Held

def run (held : Held) (steps : List Step) : Except Misuse Held :=
  steps.foldlM (fun held step => Logged.value <$> held.step step) held

theorem run_outcome (outcome : Outcome) (steps : List Step) :
    Held.run (.outcome outcome) steps = .ok (.outcome (outcome.run steps).value) := by
  induction steps generalizing outcome with
  | nil => rfl
  | cons step steps induction => exact induction (outcome.step step).value

end Held

theorem State.start_or_overlong (preferences : Preferences) (includeDrafts base : Value)
    (content : String) (given : base.orElse preferences.baseQuery = .text content) :
    (∃ start, State.start preferences includeDrafts base = .ok start) ∨
      State.start preferences includeDrafts base = .error .overlong ∧
        ¬preferences.draftsPath.IsShort := by
  by_cases unfiltered :
      (includeDrafts.orElse preferences.includeDrafts).holds = true ∨ content = ""
  · exact .inl ⟨_, start_unfiltered preferences includeDrafts base content given unfiltered⟩
  · obtain ⟨unwanted, nonempty⟩ := not_or.mp unfiltered
    rw [Bool.not_eq_true] at unwanted
    cases displayed : preferences.draftsPath.display? with
    | some path =>
        exact .inl ⟨_, start_filtered preferences includeDrafts base content given unwanted nonempty
          path displayed⟩
    | none =>
        refine .inr ⟨start_unwritten preferences includeDrafts base content given unwanted nonempty
          displayed, ?_⟩
        rw [← Value.is_some_display_iff, displayed]
        simp

/-- What a query answers when it is built. -/
def Outcome.Answers (outcome : Outcome) : Prop :=
  match outcome with
  | .state current =>
      (current.HasText → ∃ text, Logged.value <$> Held.build (.outcome outcome) = .ok (.ok text) ∧
        Logged.value <$> Held.buildOrFail (.outcome outcome) = .ok (.ok text)) ∧
      (¬current.HasText → Logged.value <$> Held.build (.outcome outcome) = .ok (.error .overlong) ∧
        Logged.value <$> Held.buildOrFail (.outcome outcome) = .ok (.error .overlong))
  | .rejected rejection =>
      Logged.value <$> Held.build (.outcome outcome) = .ok (.error (.rejected rejection)) ∧
        ∃ failure,
          Logged.value <$> Held.buildOrFail (.outcome outcome) = .ok (.error (.failure failure)) ∧
          failure.kind = .invalid rejection.part ∧ .validation ∈ failure.kind.lineage ∧
          (rejection.part, failure.kind.name) ∈ [(.filter, "InvalidFilterError"),
            (.projection, "InvalidProjectionError"), (.qualifier, "InvalidQualifierError"),
            (.order, "InvalidOrderError"), (.limit, "InvalidLimitError")]

theorem Outcome.answers (outcome : Outcome) : outcome.Answers := by
  cases outcome with
  | state current =>
      constructor
      · intro hasText
        obtain ⟨text, built⟩ := (Outcome.exists_build_state_iff current).mpr hasText
        have failing : (Outcome.state current).buildOrFail.value = .ok text := by
          rw [Outcome.build_or_fail_value, built]
          rfl
        exact ⟨text, congrArg Except.ok built, congrArg Except.ok failing⟩
      · intro without
        have built := Outcome.build_state_of_not_has_text current without
        have failing : (Outcome.state current).buildOrFail.value = .error .overlong := by
          rw [Outcome.build_or_fail_value, built]
          rfl
        exact ⟨congrArg Except.ok built, congrArg Except.ok failing⟩
  | rejected rejection =>
      refine ⟨rfl, rejection.failure, rfl, rfl, List.mem_cons_of_mem _ List.mem_cons_self, ?_⟩
      rw [Rejection.failure]
      cases rejection.part <;> simp [FailureKind.name]

/-- No input makes a query fail but by a rejection, as long as its numbers can be written. Rendering
takes all sequences of finished clauses, or of finished items, and names the first value that is
none if its numbers can; the clauses and items of a query are always rendered. A query on a text
starts unless the drafts path has a number that cannot be written. Once it is started it answers
every step with a query. It is built as a text if its slice has the numerals, or as the rejection it
carries, and for callers that want a failure the rejection becomes one of its own part. -/
theorem failures_are_rejections (preferences : Preferences) :
    RendersExactly Value.IsFilter Filter.renderValues ∧
    RendersExactly Value.IsProjection Projection.renderValues ∧
    ∀ (includeDrafts base : Value) (content : String),
      base.orElse preferences.baseQuery = .text content →
      (State.start preferences includeDrafts base = .error .overlong ∧
        ¬preferences.draftsPath.IsShort) ∨
      ∃ start, State.start preferences includeDrafts base = .ok start ∧ ∀ steps : List Step,
        ∃ outcome : Outcome, Held.run (.ofState start) steps = .ok (.outcome outcome) ∧
          Filter.renderValues (outcome.lastState.filters.map .filter) =
            .ok (Filter.renderAll outcome.lastState.filters) ∧
          Projection.renderValues (outcome.lastState.projections.map .projection) =
            .ok (Projection.renderAll outcome.lastState.projections) ∧
          outcome.Answers := by
  refine ⟨Filter.renders_exactly, Projection.renders_exactly, ?_⟩
  intro includeDrafts base content given
  rcases State.start_or_overlong preferences includeDrafts base content given with
    ⟨start, started⟩ | unstarted
  · refine .inr ⟨start, started, ?_⟩
    intro steps
    exact ⟨_, Held.run_outcome (.state start) steps, Filter.render_values_finished _,
      Projection.render_values_finished _, Outcome.answers _⟩
  · exact .inl unstarted

/-- A projection item among filters, and a marker deep in the input of a step. -/
theorem failures_are_rejections_misplaced :
    let preferences : Preferences :=
      ⟨.text "INFO", .text "*", .bool false, .text "drafts.**"⟩
    let values : List Value := [.filter (.raw "a"), .projection (.field "b"), .null]
    let steps : List Step :=
      [⟨.filter, .list [.list [.projection (.field "b")]]⟩,
        ⟨.projection, .list [.list [.text "a", .list [.text "b", .marker .join]]]⟩]
    (∃ failure, Filter.renderValues values = .error (.failure failure) ∧
      failure.details = [(.text "node", .projection (.field "b"))]) ∧
    ∃ start outcome, State.start preferences (.bool true) (.text "") = .ok start ∧
      Held.run (.ofState start) steps = .ok (.outcome outcome) ∧
      ∃ failure,
        Logged.value <$> Held.buildOrFail (.outcome outcome) = .ok (.error (.failure failure)) ∧
        failure.kind = .invalid .filter := by
  intro preferences values steps
  constructor
  · have notAll : ¬∀ value ∈ values, value.IsFilter := by
      intro all
      obtain ⟨_, other⟩ := all .null (by simp [values])
      cases other
    obtain ⟨before, found, after, same, all, stops, named, _⟩ :=
      (failures_are_rejections preferences).1.names_first values notAll
    dsimp only [values] at same
    rcases before with _ | ⟨first, _ | ⟨second, rest⟩⟩
    · cases same
      exact absurd ⟨_, rfl⟩ stops
    · cases same
      obtain ⟨failure, failed, _, _, details⟩ := named (by simp [Value.IsShort, Value.numbers])
      exact ⟨failure, failed, details⟩
    · simp only [List.cons_append, List.cons.injEq] at same
      obtain ⟨_, other⟩ := all second (by simp)
      rw [← same.2.1] at other
      cases other
  · rcases (failures_are_rejections preferences).2.2 (.bool true) (.text "") "" rfl with
      ⟨unstarted, _⟩ | ⟨start, started, runs⟩
    · cases unstarted
    obtain ⟨outcome, reached, _, _, answers⟩ := runs steps
    refine ⟨start, outcome, started, reached, ?_⟩
    cases started
    rw [Held.ofState, Held.run_outcome] at reached
    cases reached
    obtain ⟨_, failure, failed, kind, _⟩ := answers
    exact ⟨failure, failed, kind⟩

/-- A number that cannot be shown among clauses is not named, and a window that cannot be written is
accepted by its step, but then a build neither gives a text nor a rejection. -/
theorem failures_are_rejections_not_if_overlong :
    let number : Int := (9 * 10 ^ 4299 : Nat)
    let start : State := {}
    let limited : State := { start with limit := some (.window number number) }
    (Filter.renderValues [.int (number + number)] = .error .overlong ∧
      Projection.renderValues [.int (number + number)] = .error .overlong) ∧
    Held.run (.ofState start) [⟨.limit, .tuple [.int number, .int number]⟩] =
      .ok (.ofState limited) ∧
    (¬∃ result, Logged.value <$> Held.build (.ofState limited) = .ok (.ok result)) ∧
    (¬∃ rejection,
      Logged.value <$> Held.build (.ofState limited) = .ok (.error (.rejected rejection))) ∧
    ¬∃ failure,
      Logged.value <$> Held.buildOrFail (.ofState limited) = .ok (.error (.failure failure)) := by
  intro number start limited
  have unprintable : (Value.int (number + number)).isPrintable = false := by
    have long : numeral? (number + number) = none :=
      (numeral_eq_none_iff _).mpr not_has_numeral_double
    rw [Value.isPrintable, Value.inspect?, long]
    rfl
  have unshown : ∀ message, (malformed message (.int (number + number))).raised = .overlong := by
    intro message
    rw [raised_malformed, if_neg (by simp [unprintable])]
  have reached : Held.run (.ofState start) [⟨.limit, .tuple [.int number, .int number]⟩] =
      .ok (.ofState limited) := by
    rw [Held.ofState, Held.run_outcome, Outcome.run_cons, Outcome.step_window start number number
      (Int.le_of_lt long_number_pos) long_number_pos]
    rfl
  obtain ⟨_, without⟩ := Outcome.answers (.state limited)
  obtain ⟨built, failing⟩ := without
    (Outcome.not_has_text_window start number number not_has_numeral_double)
  refine ⟨⟨?_, ?_⟩, reached, ?_, ?_, ?_⟩
  · exact congrArg Except.error (unshown "Invalid filter node")
  · exact congrArg Except.error (unshown "Invalid projection node")
  · rintro ⟨text, other⟩
    cases built.symm.trans other
  · rintro ⟨rejection, other⟩
    cases built.symm.trans other
  · rintro ⟨failure, other⟩
    cases failing.symm.trans other

end GroqQuery
