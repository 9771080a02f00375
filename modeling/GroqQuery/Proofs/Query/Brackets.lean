import GroqQuery.Proofs.Induction
import GroqQuery.Proofs.Query.Texts
import GroqQuery.Proofs.Text.Brackets

/-!
Brackets in built texts. Whatever texts a query is put together from, as long as each of them closes
the brackets it opens, so does the text of the query.
-/

namespace GroqQuery

open Text

namespace Filter

mutual

def texts : Filter → List String
  | .equals key value => [key, value]
  | .compare key operator value _ => [key, operator, value]
  | .group first others _ _ => first.texts ++ textsOfEach others
  | .raw text => [text]
  | .call name argument => [name, argument]
termination_by structural filter => filter

def textsOfEach : List Filter → List String
  | [] => []
  | filter :: rest => filter.texts ++ textsOfEach rest
termination_by structural filters => filters

end

@[simp] theorem texts_of_each_eq_flat_map (filters : List Filter) :
    textsOfEach filters = filters.flatMap texts := by
  induction filters with
  | nil => rfl
  | cons filter rest induction => simp [textsOfEach, induction]

theorem separator_is_bracketed (joiner : Joiner) : IsBracketed joiner.separator := by
  cases joiner <;> decide

theorem render_is_bracketed (filter : Filter)
    (bracketed : ∀ text ∈ filter.texts, IsBracketed text) : IsBracketed filter.render := by
  induction filter using tree_induction with
  | equals key value =>
      simp only [texts, List.forall_mem_cons] at bracketed
      obtain ⟨keyBracketed, valueBracketed, _⟩ := bracketed
      have equals : IsBracketed " == " := rfl
      exact (keyBracketed.append equals).append valueBracketed
  | compare key operator value negated =>
      simp only [texts, List.forall_mem_cons] at bracketed
      obtain ⟨keyBracketed, operatorBracketed, valueBracketed, _⟩ := bracketed
      have blank : IsBracketed " " := rfl
      have expression : IsBracketed (key ++ " " ++ operator ++ " " ++ value) :=
        (((keyBracketed.append blank).append operatorBracketed).append blank).append valueBracketed
      cases negated with
      | false => exact expression
      | true => exact .enclosed rfl expression rfl
  | group first others joiner negated members =>
      have held : texts (.group first others joiner negated) = (first :: others).flatMap texts := by
        simp [texts]
      rw [held] at bracketed
      have each : ∀ text ∈ (first :: others).map render, IsBracketed text := by
        intro text member
        obtain ⟨inner, belongs, rfl⟩ := List.mem_map.mp member
        apply members inner belongs
        intro part found
        exact bracketed part (List.mem_flatMap.mpr ⟨inner, belongs, found⟩)
      have body := IsBracketed.intercalate joiner.separator (separator_is_bracketed joiner) _ each
      have opens : Leads [] ((if negated then "!" else "") ++ "(") [.round] := by
        cases negated <;> rfl
      rw [render, render_each_eq_map]
      exact .enclosed opens body rfl
  | raw text => exact bracketed text (by simp [texts])
  | call name argument =>
      simp only [texts, List.forall_mem_cons] at bracketed
      obtain ⟨nameBracketed, argumentBracketed, _⟩ := bracketed
      have opens : Leads [] (name ++ "(") [.round] := Leads.append nameBracketed rfl
      exact .enclosed opens argumentBracketed rfl

end Filter

namespace Projection

mutual

def texts : Projection → List String
  | .field name => [name]
  | .entry key value => [key, value]
  | .entryOf key value => key :: value.texts
  | .reference key value _ => [key, value]
  | .referenceOf key items _ => key :: textsOfEach items
  | .object name items joiner => name :: joiner :: textsOfEach items
termination_by structural item => item

def textsOfEach : List Projection → List String
  | [] => []
  | item :: rest => item.texts ++ textsOfEach rest
termination_by structural items => items

end

@[simp] theorem texts_of_each_eq_flat_map (items : List Projection) :
    textsOfEach items = items.flatMap texts := by
  induction items with
  | nil => rfl
  | cons item rest induction => simp [textsOfEach, induction]

theorem reference_joiner_is_bracketed (follow : Bool) : IsBracketed (referenceJoiner follow) := by
  cases follow <;> decide

theorem braced_is_bracketed (front : String) (items : List Projection)
    (frontBracketed : IsBracketed front)
    (each : ∀ item ∈ items, IsBracketed item.render) :
    IsBracketed (front ++ "\x7b" ++ renderAll items ++ "\x7d") := by
  have opens : Leads [] (front ++ "\x7b") [.curly] := Leads.append frontBracketed rfl
  have separates : IsBracketed separator := rfl
  have body : IsBracketed (renderAll items) := by
    apply IsBracketed.intercalate separator separates
    intro text member
    obtain ⟨item, belongs, rfl⟩ := List.mem_map.mp member
    exact each item belongs
  exact .enclosed opens body rfl

theorem render_is_bracketed (item : Projection)
    (bracketed : ∀ text ∈ item.texts, IsBracketed text) : IsBracketed item.render := by
  have colon : IsBracketed entryJoiner := rfl
  induction item using tree_induction with
  | field name => exact bracketed name (by simp [texts])
  | entry key value =>
      simp only [texts, List.forall_mem_cons] at bracketed
      exact (bracketed.1.append colon).append bracketed.2.1
  | entryOf key value induction =>
      simp only [texts, List.forall_mem_cons] at bracketed
      exact (bracketed.1.append colon).append (induction bracketed.2)
  | reference key value follow =>
      simp only [texts, List.forall_mem_cons] at bracketed
      exact (bracketed.1.append (reference_joiner_is_bracketed follow)).append bracketed.2.1
  | referenceOf key items follow members =>
      simp only [texts, texts_of_each_eq_flat_map, List.forall_mem_cons] at bracketed
      rw [render, render_each_eq_map]
      apply braced_is_bracketed _ _ (bracketed.1.append (reference_joiner_is_bracketed follow))
      intro item belongs
      apply members item belongs
      intro text found
      exact bracketed.2 text (List.mem_flatMap.mpr ⟨item, belongs, found⟩)
  | object name items joiner members =>
      simp only [texts, texts_of_each_eq_flat_map, List.forall_mem_cons] at bracketed
      rw [render, render_each_eq_map]
      apply braced_is_bracketed _ _ (bracketed.1.append bracketed.2.1)
      intro item belongs
      apply members item belongs
      intro text found
      exact bracketed.2.2 text (List.mem_flatMap.mpr ⟨item, belongs, found⟩)

end Projection

namespace State

/-- Every text that a state holds, in whatever part and at whatever depth. -/
def texts (state : State) : List String :=
  state.base :: state.qualifier :: state.order ++ state.filters.flatMap Filter.texts ++
    state.projections.flatMap Projection.texts

theorem filter_text_is_bracketed (filters : List Filter)
    (each : ∀ filter ∈ filters, IsBracketed filter.render) : IsBracketed (filterText filters) := by
  have body : IsBracketed (Filter.renderAll filters) := by
    apply IsBracketed.intercalate _ (Filter.separator_is_bracketed .both)
    intro text member
    obtain ⟨filter, belongs, rfl⟩ := List.mem_map.mp member
    exact each filter belongs
  rw [filterText]
  split
  · rfl
  · exact .enclosed rfl body rfl

theorem projection_text_is_bracketed (before : String) (items : List Projection)
    (each : ∀ item ∈ items, IsBracketed item.render) :
    IsBracketed (projectionText before items) := by
  have braces : IsBracketed ("\x7b" ++ Projection.renderAll items ++ "\x7d") :=
    Projection.braced_is_bracketed "" items rfl each
  unfold projectionText
  split
  next => rfl
  next name =>
    have nameBracketed : IsBracketed name := each (.field name) (by simp)
    have dot : IsBracketed "." := rfl
    split
    · exact dot.append nameBracketed
    · exact .enclosed rfl nameBracketed rfl
  next => exact braces

theorem order_text_is_bracketed (terms : List String)
    (each : ∀ term ∈ terms, IsBracketed term) : IsBracketed (orderText terms) := by
  have separates : IsBracketed ", " := rfl
  unfold orderText
  split
  · rfl
  · exact .enclosed rfl (.intercalate ", " separates terms each) rfl

theorem limit_text_is_bracketed (limit : Option Slice) (text : String)
    (written : limitText? limit = some text) : IsBracketed text := by
  cases limit with
  | none =>
      cases written
      rfl
  | some slice =>
      obtain ⟨_, same⟩ := (slice.render_eq_some_iff text).mp written
      have dots : IsBracketed "..." := rfl
      have start := IsBracketed.of_int slice.offset
      have stop := IsBracketed.of_int (slice.offset + slice.count)
      have opens : Leads [] " [" [.square] := rfl
      have first : Leads [] (" [" ++ toString slice.offset) [.square] :=
        opens.append (start.leads [.square])
      have second : Leads [] (" [" ++ toString slice.offset ++ "...") [.square] :=
        first.append (dots.leads [.square])
      rw [← same]
      exact .enclosed second stop rfl

theorem unlimited_text_is_bracketed (state : State)
    (bracketed : ∀ text ∈ state.texts, IsBracketed text) : IsBracketed state.unlimitedText := by
  simp only [texts, List.cons_append, List.forall_mem_cons, List.forall_mem_append] at bracketed
  obtain ⟨base, qualifier, ⟨order, filterTexts⟩, itemTexts⟩ := bracketed
  have filters : ∀ filter ∈ state.filters, IsBracketed filter.render := by
    intro filter belongs
    apply filter.render_is_bracketed
    intro text found
    exact filterTexts text (List.mem_flatMap.mpr ⟨filter, belongs, found⟩)
  have items : ∀ item ∈ state.projections, IsBracketed item.render := by
    intro item belongs
    apply item.render_is_bracketed
    intro text found
    exact itemTexts text (List.mem_flatMap.mpr ⟨item, belongs, found⟩)
  have filtered : IsBracketed (state.base ++ filterText state.filters) :=
    base.append (filter_text_is_bracketed state.filters filters)
  have projected := filtered.append (projection_text_is_bracketed
    (state.base ++ filterText state.filters) state.projections items)
  exact (projected.append qualifier).append (order_text_is_bracketed state.order order)

/-- The text of a query closes every bracket it opens if the texts do that it is put together from,
whichever parts there are and however filters and items are nested. There is a text unless the slice
cannot be written. -/
theorem build_is_bracketed (state : State) (bracketed : ∀ text ∈ state.texts, IsBracketed text) :
    (∀ text, (Outcome.build (.state state)).value = .ok text → IsBracketed text) ∧
      ((∃ text, (Outcome.build (.state state)).value = .ok text) ↔ state.HasText) := by
  constructor
  · intro text built
    rw [Outcome.build_state_eq_ok_iff, text_eq_some_iff] at built
    obtain ⟨limit, written, same⟩ := built
    rw [← same]
    exact (state.unlimited_text_is_bracketed bracketed).append
      (limit_text_is_bracketed state.limit limit written)
  · exact Outcome.exists_build_state_iff state

/-- Brackets of all kinds in the texts, in the filters and around them. -/
theorem build_is_bracketed_nested :
    let state : State :=
      { base := "*[a in [1, (2)]]"
        filters :=
          [.group (.compare "_id" "in" "path('x')" true) [.call "count" "tags[]"] .either true]
        projections :=
          [.field "title", .object "meta" [.entryOf "author" (.referenceOf "ref" [] true)] ":"]
        qualifier := "[0]"
        order := ["lower(name)", "date"]
        limit := some (.window (-5) 10) }
    (∀ text ∈ state.texts, IsBracketed text) ∧
      ∃ text, (Outcome.build (.state state)).value = .ok text ∧ IsBracketed text := by
  intro state
  have bracketed : ∀ text ∈ state.texts, IsBracketed text := by decide
  obtain ⟨ofText, _⟩ := state.build_is_bracketed bracketed
  exact ⟨bracketed, _, rfl, ofText _ rfl⟩

end State

end GroqQuery
