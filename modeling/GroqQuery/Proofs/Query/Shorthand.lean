import GroqQuery.Proofs.Query.ClosedForm
import GroqQuery.Proofs.Query.Start

/-!
The filter clause and the projection in a built text. Only filters that have no text at all leave
the clause out, and a single field is written as an attribute exactly when more than one character
stands in front of it. Both depend on the base, the filters and the items as they have been
collected, and on nothing else.
-/

namespace GroqQuery

namespace Filter

theorem render_eq_empty (filter : Filter) : filter.render = "" ↔ filter = .raw "" := by
  rw [← String.toList_inj]
  cases filter with
  | compare key operator value negated => cases negated <;> simp [render]
  | group first others joiner negated => cases negated <;> simp [render]
  | _ => simp [render]

theorem render_all_eq_empty (filters : List Filter) :
    renderAll filters = "" ↔ filters = [] ∨ filters = [.raw ""] := by
  match filters with
  | [] => simp [renderAll]
  | [filter] =>
      rw [renderAll, List.map_singleton, String.intercalate_singleton, render_eq_empty]
      simp
  | first :: second :: others =>
      have separated : Joiner.both.separator ≠ "" := by decide
      simp [renderAll, separated]

end Filter

namespace State

/-- The filter clause and the projection as they stand behind a base, told from the base, the
filters and the items. -/
structure IsShown (base : String) (filters : List Filter) (items : List Projection)
    (clause projected : String) : Prop where
  clause_absent : clause = "" ↔ filters = [] ∨ filters = [.raw ""]
  clause_present : clause ≠ "" → clause = "[" ++ Filter.renderAll filters ++ "]"
  omitted : projected = "" ↔ items = []
  shorthand : ∀ name, projected = "." ++ name ↔
    items = [.field name] ∧ (2 ≤ base.length ∨ clause ≠ "")
  braced : items ≠ [] → (¬∃ name, items = [.field name] ∧ (2 ≤ base.length ∨ clause ≠ "")) →
    projected = "\x7b" ++ Projection.renderAll items ++ "\x7d"

theorem filter_text_eq_empty (filters : List Filter) :
    filterText filters = "" ↔ filters = [] ∨ filters = [.raw ""] := by
  rw [← Filter.render_all_eq_empty, filterText]
  by_cases empty : Filter.renderAll filters = ""
  · simp [empty]
  · simp [empty, ← String.toList_inj]

theorem filter_text_of_present (filters : List Filter) (present : filterText filters ≠ "") :
    filterText filters = "[" ++ Filter.renderAll filters ++ "]" := by
  have written : Filter.renderAll filters ≠ "" := by
    intro empty
    rw [Filter.render_all_eq_empty, ← filter_text_eq_empty] at empty
    exact present empty
  exact if_neg written

theorem length_filtered (base : String) (filters : List Filter) :
    1 < (base ++ filterText filters).length ↔ 2 ≤ base.length ∨ filterText filters ≠ "" := by
  rw [String.length_append]
  by_cases present : filterText filters = ""
  · simp [present, Nat.lt_iff_add_one_le]
  · have brackets : 1 < (filterText filters).length := by
      rw [filter_text_of_present filters present, String.length_append, String.length_append]
      have opening : "[".length = 1 := rfl
      have closing : "]".length = 1 := rfl
      omega
    have long : 1 < base.length + (filterText filters).length := by omega
    simp [present, long]

/-- Whether a single field can be written as an attribute of what stands in front of it. -/
def IsAttribute (before : String) (items : List Projection) : Prop :=
  ∃ name, items = [.field name] ∧ 1 < before.length

theorem projection_text_attribute (before name : String) (long : 1 < before.length) :
    projectionText before [.field name] = "." ++ name := if_pos long

theorem projection_text_braced (before : String) (items : List Projection) (shown : items ≠ [])
    (other : ¬IsAttribute before items) :
    projectionText before items = "\x7b" ++ Projection.renderAll items ++ "\x7d" := by
  unfold projectionText
  split
  next => exact absurd rfl shown
  next name =>
    have short : ¬1 < before.length := fun long => other ⟨name, rfl, long⟩
    rw [if_neg short]
    simp [Projection.renderAll, Projection.render]
  next => rfl

theorem projection_text_eq_empty (before : String) (items : List Projection) :
    projectionText before items = "" ↔ items = [] := by
  constructor
  · intro empty
    by_contra shown
    by_cases pointed : IsAttribute before items
    · obtain ⟨name, rfl, long⟩ := pointed
      rw [projection_text_attribute before name long] at empty
      simp at empty
    · rw [projection_text_braced before items shown pointed] at empty
      simp at empty
  · rintro rfl
    rfl

theorem projection_text_eq_attribute (before : String) (items : List Projection) (name : String) :
    projectionText before items = "." ++ name ↔ items = [.field name] ∧ 1 < before.length := by
  constructor
  · intro same
    by_cases pointed : IsAttribute before items
    · obtain ⟨other, rfl, long⟩ := pointed
      rw [projection_text_attribute before other long, String.append_right_inj] at same
      exact ⟨by rw [same], long⟩
    · have shown : items ≠ [] := by
        rintro rfl
        simp [projectionText, ← String.toList_inj] at same
      rw [projection_text_braced before items shown pointed, ← String.toList_inj] at same
      simp at same
  · rintro ⟨rfl, long⟩
    exact projection_text_attribute before name long

theorem is_shown (base : String) (filters : List Filter) (items : List Projection) :
    IsShown base filters items (filterText filters)
      (projectionText (base ++ filterText filters) items) := by
  let before := base ++ filterText filters
  constructor
  case clause_absent => exact filter_text_eq_empty filters
  case clause_present => exact filter_text_of_present filters
  case omitted => exact projection_text_eq_empty before items
  case shorthand =>
    intro name
    rw [← length_filtered]
    exact projection_text_eq_attribute before items name
  case braced =>
    intro shown other
    apply projection_text_braced before items shown
    rintro ⟨name, same, long⟩
    exact other ⟨name, same, (length_filtered base filters).mp long⟩

end State

/-- The field shorthand is used exactly where it should be. Every run of accepted steps from a new
query collects some filters and some items. The base together with what is collected settles the
filter clause and the projection, and all runs that collect the same on the same base, however they
split it over their steps, build texts with that clause and that projection behind the base. The
qualifier, the order and the slice only come behind them, and there is a text whenever the slice
can be written. -/
theorem shorthand_as_collected :
    (∀ (preferences : Preferences) (includeDrafts base : Value) (start : State)
      (steps : List Step), State.start preferences includeDrafts base = .ok start →
      (∀ step ∈ steps, step.isRejected = false) →
      ∃ filters items, Grown Filter.read start.filters (Step.inputsFor steps .filter) filters ∧
        Grown Projection.read [] (Step.inputsFor steps .projection) items) ∧
    ∀ (content : String) (filters : List Filter) (items : List Projection),
      ∃ clause projected, State.IsShown content filters items clause projected ∧
        ∀ (preferences : Preferences) (includeDrafts base : Value) (start : State)
          (steps : List Step), State.start preferences includeDrafts base = .ok start →
          start.base = content → (∀ step ∈ steps, step.isRejected = false) →
          Grown Filter.read start.filters (Step.inputsFor steps .filter) filters →
          Grown Projection.read [] (Step.inputsFor steps .projection) items →
          ∃ final, (Outcome.run (.state start) steps).value = .state final ∧
            (∀ text, (Outcome.build (.state final)).value = .ok text ↔
              ∃ limit, State.limitText? final.limit = some limit ∧
                content ++ clause ++ projected ++ final.qualifier ++
                  State.orderText final.order ++ limit = text) ∧
              ((∃ text, (Outcome.build (.state final)).value = .ok text) ↔ final.HasText) := by
  constructor
  · intro preferences includeDrafts base start steps started accepted
    obtain ⟨_, _, same, _⟩ := State.start_eq preferences includeDrafts base start started
    have closed := State.ClosedForm.apply_all start steps accepted
    have items := closed.projections
    rw [same] at items
    exact ⟨_, _, closed.filters, items⟩
  · intro content filters items
    refine ⟨State.filterText filters,
      State.projectionText (content ++ State.filterText filters) items,
      State.is_shown content filters items, ?_⟩
    intro preferences includeDrafts base start steps started onBase accepted collected shown
    obtain ⟨_, _, same, _⟩ := State.start_eq preferences includeDrafts base start started
    have closed := State.ClosedForm.apply_all start steps accepted
    refine ⟨_, Outcome.run_accepted start steps accepted, ?_, Outcome.exists_build_state_iff _⟩
    have base := closed.base.trans onBase
    have filters := closed.filters.unique collected
    have empty : start.projections = [] := by rw [same]
    have items := (empty ▸ closed.projections).unique shown
    intro text
    rw [Outcome.build_state_eq_ok_iff, State.text_eq_some_iff, State.unlimitedText, base, filters,
      items]

/-- A filter without a text and one field on a base of one character, in two steps or in three. -/
theorem shorthand_as_collected_on_bare_base :
    let preferences : Preferences :=
      ⟨.text "INFO", .text "*", .bool false, .text "drafts.**"⟩
    let start : State := { base := "*" }
    let steps : List Step :=
      [⟨.filter, .filter (.raw "")⟩, ⟨.projection, .text "title"⟩]
    let others : List Step :=
      [⟨.projection, .list [.projection (.field "title")]⟩, ⟨.qualifier, .text "[0]"⟩,
        ⟨.filter, .list [.filter (.raw "")]⟩]
    State.start preferences (.bool true) .null = .ok start ∧
      ∃ clause projected, State.IsShown "*" [.raw ""] [.field "title"] clause projected ∧
        clause = "" ∧ projected = "\x7btitle\x7d" ∧
        (Outcome.run (.state start) steps).value.build.value = .ok ("*" ++ clause ++ projected) ∧
        (Outcome.run (.state start) others).value.build.value =
          .ok ("*" ++ clause ++ projected ++ "[0]") := by
  intro preferences start steps others
  have started : State.start preferences (.bool true) .null = .ok start := rfl
  obtain ⟨clause, projected, shown, builds⟩ :=
    shorthand_as_collected.2 "*" [.raw ""] [.field "title"]
  have absent : clause = "" := shown.clause_absent.mpr (.inr rfl)
  have braces : projected = "\x7btitle\x7d" := by
    have short : ¬2 ≤ "*".length := by decide
    rw [shown.braced (by simp) (by simp [absent, short])]
    rfl
  refine ⟨started, clause, projected, shown, absent, braces, ?_, ?_⟩
  · let final : State := { filters := [.raw ""], projections := [.field "title"] }
    have ends : (Outcome.run (.state start) steps).value = .state final := rfl
    obtain ⟨_, reached, built, _⟩ := builds preferences (.bool true) .null start steps started rfl
      (by decide) ⟨[[.raw ""]], rfl, rfl⟩ ⟨[[.field "title"]], rfl, rfl⟩
    cases ends.symm.trans reached
    exact (built _).mpr ⟨"", rfl, by simp [final, State.orderText]⟩
  · let final : State :=
      { filters := [.raw ""], projections := [.field "title"], qualifier := "[0]" }
    have ends : (Outcome.run (.state start) others).value = .state final := rfl
    obtain ⟨_, reached, built, _⟩ := builds preferences (.bool true) .null start others started rfl
      (by decide) ⟨[[.raw ""]], rfl, rfl⟩ ⟨[[.field "title"]], rfl, rfl⟩
    cases ends.symm.trans reached
    exact (built _).mpr ⟨"", rfl, by simp [final, State.orderText]⟩

end GroqQuery
