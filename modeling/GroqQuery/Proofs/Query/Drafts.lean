import GroqQuery.Proofs.Query.Run
import GroqQuery.Proofs.Query.Start
import GroqQuery.Proofs.Query.Texts

/-!
The filter that keeps drafts out. A new query has it as its first filter or has no filter at all,
and no accepted step takes it away, moves it or changes it, whatever happens to the settings in the
meantime. It therefore stands right behind the base of the built text.
-/

namespace GroqQuery

/-- What happens to a program that holds a query: the query takes a step, or a setting is
assigned. -/
inductive Event where
  | step (step : Step)
  | assign (setting : Setting) (value : Value)

namespace Event

def step? : Event → Option Step
  | .step taken => some taken
  | .assign .. => none

end Event

structure Session where
  preferences : Preferences
  outcome : Outcome

namespace Session

def next (session : Session) : Event → Session
  | .step step => { session with outcome := (session.outcome.step step).value }
  | .assign setting value =>
      { session with preferences := session.preferences.assign setting value }

def run (session : Session) (events : List Event) : Session := events.foldl next session

theorem run_outcome (session : Session) (events : List Event) :
    (session.run events).outcome =
      (session.outcome.run (events.filterMap Event.step?)).value := by
  induction events generalizing session with
  | nil => rfl
  | cons event events induction =>
      change ((session.next event).run events).outcome = _
      rw [induction]
      cases event with
      | step step => rfl
      | assign setting value => rfl

theorem run_accepted (preferences : Preferences) (start : State) (events : List Event)
    (accepted : ∀ step, .step step ∈ events → step.isRejected = false) :
    ∃ edits, (Session.run ⟨preferences, .state start⟩ events).outcome =
      .state (start.applyAll edits) := by
  refine ⟨(events.filterMap Event.step?).filterMap Step.edit?, ?_⟩
  rw [run_outcome]
  apply Outcome.run_accepted
  intro step member
  obtain ⟨event, belongs, taken⟩ := List.mem_filterMap.mp member
  cases event with
  | step other =>
      cases taken
      exact accepted step belongs
  | assign setting value => cases taken

end Session

theorem draft_exclusion_render (path : String) :
    (draftExclusion path).render = "!(_id in path('" ++ path ++ "'))" := by
  rw [← String.toList_inj]
  simp [draftExclusion, Filter.render]

namespace State

theorem filter_text_of_front (filters : List Filter) (front rest : String) (nonempty : front ≠ "")
    (body : Filter.renderAll filters = front ++ rest) :
    filterText filters = "[" ++ front ++ rest ++ "]" := by
  have written : Filter.renderAll filters ≠ "" := by
    rw [body]
    intro empty
    exact nonempty (String.append_eq_empty_iff.mp empty).1
  rw [filterText, body, String.append_assoc, String.append_assoc, String.append_assoc]
  exact if_neg (body ▸ written)

theorem filter_text_draft_exclusion (path : String) (others : List Filter) :
    ∃ rest,
      filterText (draftExclusion path :: others) =
          "[!(_id in path('" ++ path ++ "'))" ++ "]" ++ rest ∨
        filterText (draftExclusion path :: others) =
          "[!(_id in path('" ++ path ++ "'))" ++ " && " ++ rest := by
  have nonempty : (draftExclusion path).render ≠ "" := by
    rw [draft_exclusion_render, ne_eq, ← String.toList_inj]
    simp
  cases others with
  | nil =>
      have body : Filter.renderAll [draftExclusion path] =
          (draftExclusion path).render ++ "" := by
        simp [Filter.renderAll]
      refine ⟨"", .inl ?_⟩
      rw [filter_text_of_front _ _ _ nonempty body, draft_exclusion_render, ← String.toList_inj]
      simp
  | cons second others =>
      have body : Filter.renderAll (draftExclusion path :: second :: others) =
          (draftExclusion path).render ++ (" && " ++ Filter.renderAll (second :: others)) := by
        simp only [Filter.renderAll, List.map_cons, String.intercalate_cons_cons,
          String.append_assoc]
        rfl
      refine ⟨Filter.renderAll (second :: others) ++ "]", .inr ?_⟩
      rw [filter_text_of_front _ _ _ nonempty body, draft_exclusion_render, ← String.toList_inj]
      simp

/-- Where a text stands in front of others, the exclusion of a drafts path follows it, alone or with
more behind it. -/
def StartsExcluding (text base path : String) : Prop :=
  ∃ rest, text = base ++ "[!(_id in path('" ++ path ++ "'))" ++ "]" ++ rest ∨
    text = base ++ "[!(_id in path('" ++ path ++ "'))" ++ " && " ++ rest

theorem starts_excluding_append (text base path behind : String)
    (starts : StartsExcluding text base path) : StartsExcluding (text ++ behind) base path := by
  obtain ⟨rest, either⟩ := starts
  refine ⟨rest ++ behind, ?_⟩
  rcases either with closed | continued
  · left
    rw [closed, String.append_assoc]
  · right
    rw [continued, String.append_assoc]

theorem starts_excluding_unlimited_text (state : State) (path : String) (later : List Filter)
    (first : state.filters = draftExclusion path :: later) :
    StartsExcluding state.unlimitedText state.base path := by
  have clause : StartsExcluding (state.base ++ filterText state.filters) state.base path := by
    obtain ⟨rest, either⟩ := filter_text_draft_exclusion path later
    refine ⟨rest, ?_⟩
    rw [first]
    rcases either with closed | continued
    · left
      simp only [closed, String.append_assoc]
    · right
      simp only [continued, String.append_assoc]
  unfold unlimitedText
  apply starts_excluding_append
  apply starts_excluding_append
  apply starts_excluding_append
  exact clause

theorem starts_excluding_build (state : State) (path : String) (later : List Filter)
    (first : state.filters = draftExclusion path :: later) (text : String)
    (built : (Outcome.build (.state state)).value = .ok text) :
    StartsExcluding text state.base path := by
  rw [Outcome.build_state_eq_ok_iff, text_eq_some_iff] at built
  obtain ⟨limit, _, same⟩ := built
  rw [← same]
  exact starts_excluding_append _ _ _ limit (state.starts_excluding_unlimited_text path later first)

end State

/-- Drafts stay out. Whatever the settings are when a query is started without drafts, and whatever
becomes of them while it takes its steps, the query keeps the exclusion of the drafts path of that
moment as its first filter, and its text has it right behind the base. The path is the text in the
settings, or what another value there is displayed as. A query that is started with drafts, or
without a base, has no filter at all. -/
theorem drafts_stay_excluded :
    (∀ (preferences : Preferences) (includeDrafts base : Value) (content path : String),
      (includeDrafts.orElse preferences.includeDrafts).holds = false →
      base.orElse preferences.baseQuery = .text content → content ≠ "" →
      (preferences.draftsPath = .text path ∨ preferences.draftsPath.display? = some path) →
      ∃ start, State.start preferences includeDrafts base = .ok start ∧
        ∀ events : List Event, (∀ step, .step step ∈ events → step.isRejected = false) →
          ∃ final, (Session.run ⟨preferences, .state start⟩ events).outcome = .state final ∧
            (∃ later, final.filters = draftExclusion path :: later) ∧
            (∀ text, (Outcome.build (.state final)).value = .ok text →
              ∃ rest, text = content ++ "[!(_id in path('" ++ path ++ "'))" ++ "]" ++ rest ∨
                text = content ++ "[!(_id in path('" ++ path ++ "'))" ++ " && " ++ rest) ∧
            ((∃ text, (Outcome.build (.state final)).value = .ok text) ↔ final.HasText)) ∧
    ∀ (preferences : Preferences) (includeDrafts base : Value),
      (includeDrafts.orElse preferences.includeDrafts).holds = true ∨
        base.orElse preferences.baseQuery = .text "" →
      (∀ state, State.start preferences includeDrafts base = .ok state → state.filters = []) ∧
      ∀ content, base.orElse preferences.baseQuery = .text content →
        State.start preferences includeDrafts base = .ok { base := content } := by
  constructor
  · intro preferences includeDrafts base content path unwanted given nonempty shown
    have displayed : preferences.draftsPath.display? = some path := by
      rcases shown with text | displayed
      · rw [text]
        rfl
      · exact displayed
    let start : State := { base := content, filters := [draftExclusion path] }
    have started : State.start preferences includeDrafts base = .ok start :=
      State.start_filtered preferences includeDrafts base content given unwanted nonempty path
        displayed
    refine ⟨start, started, ?_⟩
    intro events accepted
    obtain ⟨edits, reached⟩ := Session.run_accepted preferences start events accepted
    obtain ⟨later, first⟩ := State.apply_all_filters start edits
    refine ⟨start.applyAll edits, reached, ⟨later, first.symm⟩, ?_, ?_⟩
    · intro text built
      have starts := State.starts_excluding_build _ path later first.symm text built
      rw [State.apply_all_base] at starts
      exact starts
    · exact Outcome.exists_build_state_iff _
  · intro preferences includeDrafts base without
    have empty : ∀ content, base.orElse preferences.baseQuery = .text content →
        State.start preferences includeDrafts base = .ok { base := content } := by
      intro content given
      apply State.start_unfiltered preferences includeDrafts base content given
      rcases without with wanted | baseless
      · exact .inl wanted
      · rw [given] at baseless
        exact .inr (Value.text.inj baseless)
    refine ⟨?_, empty⟩
    intro state started
    rcases without with wanted | baseless
    · exact State.start_filters_of_wanted preferences includeDrafts base wanted state started
    · rw [empty "" baseless] at started
      cases started
      rfl

/-- A session that starts from a drafts path of its own, before the path is assigned anew and drafts
are wanted from then on. -/
theorem drafts_stay_excluded_when_reassigned :
    let preferences : Preferences :=
      ⟨.text "INFO", .text "articles", .int 0, .text "archive.**"⟩
    let events : List Event :=
      [.assign .draftsPath (.text "drafts.**"),
        .step ⟨.filter, .map [(.text "_type", .text "'post'")]⟩,
        .assign .includeDrafts (.bool true), .step ⟨.projection, .text "title"⟩]
    (∃ start final text, State.start preferences .null .null = .ok start ∧
      (Session.run ⟨preferences, .state start⟩ events).outcome = .state final ∧
      (Outcome.build (.state final)).value = .ok text ∧
      ∃ rest, text = "articles" ++ "[!(_id in path('" ++ "archive.**" ++ "'))" ++ "]" ++ rest ∨
        text = "articles" ++ "[!(_id in path('" ++ "archive.**" ++ "'))" ++ " && " ++ rest) ∧
    State.start preferences (.bool true) .null = .ok { base := "articles" } := by
  intro preferences events
  constructor
  · obtain ⟨start, started, kept⟩ :=
      drafts_stay_excluded.1 preferences .null .null "articles" "archive.**" rfl rfl (by decide)
        (.inl rfl)
    obtain ⟨final, reached, ⟨later, _⟩, excluded, builds⟩ := kept events (by
      intro step member
      simp only [events, List.mem_cons, List.not_mem_nil, reduceCtorEq, Event.step.injEq,
        false_or, or_false] at member
      rcases member with rfl | rfl <;> rfl)
    have unlimited : final.limit = none := by
      cases started
      cases reached
      rfl
    obtain ⟨text, built⟩ := builds.mpr fun slice limited => by
      rw [unlimited] at limited
      cases limited
    exact ⟨start, final, text, started, reached, built, excluded text built⟩
  · exact (drafts_stay_excluded.2 preferences (.bool true) .null (.inl rfl)).2 "articles" rfl

end GroqQuery
