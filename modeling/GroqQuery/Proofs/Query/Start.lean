import GroqQuery.Proofs.Construction
import GroqQuery.Proofs.Reading
import GroqQuery.Query.Start

/-!
What a new query is. Its base is the one that is given or that the settings have, and its filters
are the exclusion of drafts or none; everything else is left at its default.
-/

namespace GroqQuery

namespace State

theorem as_sequence_filters (filters : List Filter) :
    (Value.tuple (filters.map .filter)).asSequence Value.filter? = .ok filters :=
  (Value.as_sequence_eq_ok Value.filter_eq_some _ filters).mpr rfl

theorem of_fields_base_filters (base : Value) (filters : List Filter) :
    State.ofFields [("base_query", base), ("filters", .tuple (filters.map .filter))] =
      (Fields.check "base_query" base.asText).map fun content =>
        { base := content, filters := filters } := by
  have given : Fields.optional
      [("base_query", base), ("filters", .tuple (filters.map .filter))] "filters"
      (Value.asSequence Value.filter?) [] = .ok filters := by
    change Fields.check "filters" (Value.asSequence Value.filter? _) = _
    rw [as_sequence_filters]
    rfl
  have named : Fields.optional
      [("base_query", base), ("filters", .tuple (filters.map .filter))] "base_query"
      Value.asText "*" = Fields.check "base_query" base.asText := rfl
  rw [State.ofFields, given, named]
  cases Fields.check "base_query" base.asText with
  | ok content => rfl
  | error faults => rfl

theorem start_of_filters (preferences : Preferences) (includeDrafts base : Value)
    (content : String) (given : base.orElse preferences.baseQuery = .text content)
    (filters : List Filter)
    (chosen : startingFilters preferences (includeDrafts.orElse preferences.includeDrafts)
      (.text content) = .ok filters) :
    State.start preferences includeDrafts base = .ok { base := content, filters := filters } := by
  simp only [State.start, given, chosen]
  change Except.mapError _ (State.ofFields _) = _
  rw [of_fields_base_filters]
  rfl

theorem start_unfiltered (preferences : Preferences) (includeDrafts base : Value)
    (content : String) (given : base.orElse preferences.baseQuery = .text content)
    (unfiltered : (includeDrafts.orElse preferences.includeDrafts).holds = true ∨ content = "") :
    State.start preferences includeDrafts base = .ok { base := content } := by
  apply start_of_filters preferences includeDrafts base content given []
  unfold startingFilters
  rcases unfiltered with wanted | empty
  · simp [wanted]
  · simp [empty]

theorem start_filtered (preferences : Preferences) (includeDrafts base : Value)
    (content : String) (given : base.orElse preferences.baseQuery = .text content)
    (unwanted : (includeDrafts.orElse preferences.includeDrafts).holds = false)
    (nonempty : content ≠ "") (path : String)
    (displayed : preferences.draftsPath.display? = some path) :
    State.start preferences includeDrafts base =
      .ok { base := content, filters := [draftExclusion path] } := by
  have exclusion : preferences.draftExclusion? .null = some (draftExclusion path) := by
    change draftExclusion <$> preferences.draftsPath.display? = _
    rw [displayed]
    rfl
  apply start_of_filters preferences includeDrafts base content given
  simp [startingFilters, unwanted, nonempty, exclusion]

theorem start_unwritten (preferences : Preferences) (includeDrafts base : Value)
    (content : String) (given : base.orElse preferences.baseQuery = .text content)
    (unwanted : (includeDrafts.orElse preferences.includeDrafts).holds = false)
    (nonempty : content ≠ "") (hidden : preferences.draftsPath.display? = none) :
    State.start preferences includeDrafts base = .error .overlong := by
  have exclusion : preferences.draftExclusion? .null = none := by
    change draftExclusion <$> preferences.draftsPath.display? = _
    rw [hidden]
    rfl
  have unfinished : startingFilters preferences (includeDrafts.orElse preferences.includeDrafts)
      (.text content) = .error .overlong := by
    simp [startingFilters, unwanted, nonempty, exclusion]
  simp only [State.start, given, unfinished]
  rfl

theorem start_eq (preferences : Preferences) (includeDrafts base : Value) (state : State)
    (started : State.start preferences includeDrafts base = .ok state) :
    ∃ content filters, state = { base := content, filters := filters } ∧
      startingFilters preferences (includeDrafts.orElse preferences.includeDrafts)
        (base.orElse preferences.baseQuery) = .ok filters := by
  obtain ⟨filters, chosen, started⟩ := (bind_eq_ok _ _ _).mp started
  rw [of_fields_base_filters, map_error_eq_ok] at started
  cases checked : Fields.check "base_query" (base.orElse preferences.baseQuery).asText with
  | error faults => simp [checked, Except.map] at started
  | ok content =>
      simp only [checked, Except.map, Except.ok.injEq] at started
      exact ⟨content, filters, started.symm, chosen⟩

theorem start_filters_of_wanted (preferences : Preferences) (includeDrafts base : Value)
    (wanted : (includeDrafts.orElse preferences.includeDrafts).holds = true) (state : State)
    (started : State.start preferences includeDrafts base = .ok state) : state.filters = [] := by
  obtain ⟨content, filters, rfl, chosen⟩ := start_eq preferences includeDrafts base state started
  simp only [startingFilters, wanted] at chosen
  exact (Except.ok.inj chosen).symm

end State

end GroqQuery
