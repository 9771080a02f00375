import GroqQuery.Proofs.Induction
import GroqQuery.Proofs.Query.Inputs
import GroqQuery.Proofs.Query.Run
import GroqQuery.Proofs.Query.Start

/-!
The states that a query can be in. Whatever a caller hands in, no step leads out of the well-formed
states, and none of those is out of reach: a new query becomes it when its own clauses, items and
settings are handed back in.
-/

namespace GroqQuery

namespace Filter

mutual

def groups : Filter → List (List Filter × String)
  | .group first others joiner _ =>
      (first :: others, joiner.text) :: (first.groups ++ groupsOfEach others)
  | _ => []
termination_by structural filter => filter

def groupsOfEach : List Filter → List (List Filter × String)
  | [] => []
  | filter :: rest => filter.groups ++ groupsOfEach rest
termination_by structural filters => filters

end

@[simp] theorem groups_of_each_eq_flat_map (filters : List Filter) :
    groupsOfEach filters = filters.flatMap groups := by
  induction filters with
  | nil => rfl
  | cons filter rest induction => simp [groupsOfEach, induction]

theorem groups_joined (filter : Filter) (group : List Filter × String)
    (member : group ∈ filter.groups) : group.1 ≠ [] ∧ (group.2 = "&&" ∨ group.2 = "||") := by
  induction filter using tree_induction with
  | group first others joiner negated members =>
      rw [groups, groups_of_each_eq_flat_map, ← List.flatMap_cons, List.mem_cons] at member
      rcases member with rfl | inside
      · cases joiner
        · exact ⟨List.cons_ne_nil first others, .inl rfl⟩
        · exact ⟨List.cons_ne_nil first others, .inr rfl⟩
      · obtain ⟨inner, belongs, found⟩ := List.mem_flatMap.mp inside
        exact members inner belongs found
  | _ => cases member

end Filter

namespace State

/-- What a state promises to whoever reads it: every group, however deep, has members and one of the
two joiners, and a limit lets something through. That filters, projection items and order terms are
what they are called is in the type of a state. -/
structure WellFormed (state : State) : Prop where
  groups : ∀ filter ∈ state.filters, ∀ group ∈ filter.groups,
    group.1 ≠ [] ∧ (group.2 = "&&" ∨ group.2 = "||")
  limit : ∀ slice, state.limit = some slice → slice.IsProper

theorem WellFormed.apply (state : State) (step : Step) (edit : Edit)
    (reads : step.edit? = some edit) (well_formed : state.WellFormed) :
    (edit.apply state).WellFormed := by
  refine ⟨fun filter _ => filter.groups_joined, ?_⟩
  cases edit with
  | setLimit slice =>
      intro set same
      cases same
      exact step.is_proper_of_edit slice reads
  | _ => exact well_formed.limit

/-- A state that a query can be in, or can have kept behind a rejection: some new query on a text
becomes it by some steps. -/
def IsReachable (state : State) : Prop :=
  ∃ (preferences : Preferences) (includeDrafts base : Value) (content : String) (start : State)
    (steps : List Step),
    base.orElse preferences.baseQuery = .text content ∧
      State.start preferences includeDrafts base = .ok start ∧
      (Outcome.run (.state start) steps).value.lastState = state

theorem IsReachable.well_formed (state : State) (reachable : state.IsReachable) :
    state.WellFormed := by
  obtain ⟨preferences, includeDrafts, base, content, start, steps, given, started, rfl⟩ := reachable
  apply Outcome.run_keeps WellFormed.apply
  obtain ⟨_, _, rfl, _⟩ := State.start_eq preferences includeDrafts base start started
  exact ⟨fun filter _ => filter.groups_joined, fun slice absent => by cases absent⟩

end State

theorem Filter.read_clauses_finished (filters : List Filter) :
    Filter.readClauses (filters.map .filter) = .ok filters := by
  induction filters with
  | nil => rfl
  | cons filter filters induction =>
      rw [List.map_cons, Filter.readClauses, induction]
      · rfl
      · intro entries other
        cases other

theorem Filter.read_list_finished (filters : List Filter) :
    Filter.readList (filters.map .filter) = .ok filters := by
  cases filters with
  | nil => rfl
  | cons filter filters => exact Filter.read_clauses_finished (filter :: filters)

theorem Projection.read_items_finished (items : List Projection) :
    Projection.readItems (items.map .projection) = .ok items := by
  induction items with
  | nil => rfl
  | cons item items induction =>
      rw [List.map_cons, Projection.readItems, induction]
      rfl

def Slice.asValue : Slice → Value
  | .first count => .int count
  | .window offset count => .tuple [.int offset, .int count]

theorem Slice.gives_slice_as_value (slice : Slice) : slice.asValue.GivesSlice slice := by
  cases slice <;> rfl

namespace State

/-- The steps that hand the parts of a state in again, one after the other. -/
def rebuilding (state : State) : List Step :=
  [⟨.filter, .list (state.filters.map .filter)⟩,
    ⟨.projection, .list (state.projections.map .projection)⟩,
    ⟨.qualifier, .text state.qualifier⟩,
    ⟨.order, .list (state.order.map .text)⟩] ++
    (state.limit.map fun slice => ⟨.limit, slice.asValue⟩).toList

theorem run_rebuilding (state : State) (well_formed : state.WellFormed) :
    (Outcome.run (.state { base := state.base }) state.rebuilding).value = .state state := by
  have filterEdit : Step.filterEdit? (.list (state.filters.map .filter)) =
      some (.addFilters state.filters) :=
    (Step.filter_edit_eq_some _ _).mpr ⟨_, Filter.read_list_finished state.filters, rfl⟩
  have projectionEdit : Step.projectionEdit? (.list (state.projections.map .projection)) =
      some (.addProjections state.projections) :=
    (Step.projection_edit_eq_some _ _).mpr
      ⟨_, Projection.read_items_finished state.projections, rfl⟩
  have orderEdit : Step.orderEdit? (.list (state.order.map .text)) = some (.setOrder state.order) :=
    (Step.order_edit_eq_some _ _).mpr ⟨_, .inr rfl, rfl⟩
  have limitEdit : ∀ slice ∈ state.limit,
      Step.limitEdit? slice.asValue = some (.setLimit slice) := by
    intro slice limited
    rw [Step.limit_edit_eq_some]
    exact .inr ⟨slice, slice.gives_slice_as_value, well_formed.limit slice limited, rfl⟩
  let edits : List Edit :=
    [.addFilters state.filters, .addProjections state.projections, .setQualifier state.qualifier,
      .setOrder state.order] ++ (state.limit.map Edit.setLimit).toList
  have reads : state.rebuilding.map Step.edit? = edits.map some := by
    cases limited : state.limit with
    | none =>
        simp [rebuilding, edits, limited, Step.edit?, Step.qualifierEdit?, filterEdit,
          projectionEdit, orderEdit]
    | some slice =>
        simp [rebuilding, edits, limited, Step.edit?, Step.qualifierEdit?, filterEdit,
          projectionEdit, orderEdit, limitEdit slice limited]
  rw [Outcome.run_edits _ _ edits reads]
  obtain ⟨base, filters, projections, qualifier, order, limit⟩ := state
  cases limit <;> rfl

end State

/-- The states of a query are exactly the well-formed ones. A group can be built in no other way
than with members and one of the two joiners; no steps on whatever inputs lead out of the
well-formed states; and a well-formed state is built up anew by handing its parts in. -/
theorem reachable_states_well_formed :
    (∀ (fields : Fields) (value : Value), Shape.group.build fields = .ok value →
      ∃ first others joiner negated, value = .filter (.group first others joiner negated) ∧
        (fields.get? "children").bind Value.items? = some ((first :: others).map .filter) ∧
        (fields.get? "join" = none ∧ joiner = .either ∨
          fields.get? "join" = some (.text joiner.text))) ∧
    (∀ state : State, state.IsReachable → state.WellFormed) ∧
    ∀ (preferences : Preferences) (state : State), state.WellFormed →
      ∃ start, State.start preferences (.bool true) (.text state.base) = .ok start ∧
        (Outcome.run (.state start) state.rebuilding).value = .state state := by
  refine ⟨Shape.build_group, State.IsReachable.well_formed, ?_⟩
  intro preferences state well_formed
  exact ⟨{ base := state.base },
    State.start_unfiltered preferences (.bool true) (.text state.base) state.base rfl (.inl rfl),
    State.run_rebuilding state well_formed⟩

/-- A state that was kept behind a rejected limit, built up anew. -/
theorem reachable_states_well_formed_kept :
    let preferences : Preferences :=
      ⟨.text "INFO", .text "*", .bool false, .text "drafts.**"⟩
    let steps : List Step :=
      [⟨.filter, .list [.list [.map [(.text "a", .int 1)], .filter (.raw "b"),
          .map [(.marker .join, .text "&&")]]]⟩,
        ⟨.limit, .list [.int 5, .int 10]⟩, ⟨.limit, .bool true⟩]
    let first : State := { filters := [draftExclusion "drafts.**"] }
    let kept : State :=
      { filters := [draftExclusion "drafts.**", .group (.equals "a" "1") [.raw "b"] .both false]
        limit := some (.window 5 10) }
    let fields : Fields := [("children", .list [.filter (.raw "b")]), ("join", .text "&&")]
    State.start preferences .null .null = .ok first ∧
      (Outcome.run (.state first) steps).value = .rejected ⟨.limit, Part.limit.message, kept⟩ ∧
      kept.WellFormed ∧
      (∃ start, State.start preferences (.bool true) (.text "*") = .ok start ∧
        (Outcome.run (.state start) kept.rebuilding).value = .state kept) ∧
      Shape.group.build fields = .ok (.filter (.group (.raw "b") [] .both false)) ∧
      fields.get? "join" = some (.text "&&") := by
  intro preferences steps first kept fields
  have started : State.start preferences .null .null = .ok first := rfl
  have rejected : (Outcome.run (.state first) steps).value =
      .rejected ⟨.limit, Part.limit.message, kept⟩ := rfl
  have reachable : kept.IsReachable :=
    ⟨preferences, .null, .null, "*", first, steps, rfl, started, by rw [rejected]; rfl⟩
  have well_formed := reachable_states_well_formed.2.1 kept reachable
  have built : Shape.group.build fields = .ok (.filter (.group (.raw "b") [] .both false)) := rfl
  refine ⟨started, rejected, well_formed,
    reachable_states_well_formed.2.2 preferences kept well_formed, built, ?_⟩
  obtain ⟨_, _, _, _, same, _, given⟩ := reachable_states_well_formed.1 fields _ built
  cases same
  rcases given with ⟨_, other⟩ | named
  · cases other
  · exact named

end GroqQuery
