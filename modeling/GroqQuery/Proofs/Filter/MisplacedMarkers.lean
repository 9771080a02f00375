import GroqQuery.Proofs.Filter.Grammar
import GroqQuery.Proofs.Query.Inputs
import GroqQuery.Proofs.Query.Run

/-!
Joiners and negations beside fields. In a list inside another list such a map is refused, however
deep it stands. At the top, where everything has to hold anyway, the fields of such a map are read
and its joiner and its negation are passed over.
-/

namespace GroqQuery

namespace Entries

def unsteered (entries : Entries) : Entries :=
  entries.filter fun
    | (.marker .join, _) => false
    | (.marker .negate, _) => false
    | _ => true

theorem marked_nest_unsteered (entries : Entries) :
    entries.unsteered.marked? .nest = entries.marked? .nest := by
  induction entries with
  | nil => rfl
  | cons entry entries induction =>
      obtain ⟨key, value⟩ := entry
      cases key with
      | marker mark =>
          cases mark with
          | nest => rfl
          | _ => exact induction
      | _ => exact induction

end Entries

namespace Value

def unsteeredMap : Value → Value
  | .map entries => .map (Entries.unsteered entries)
  | value => value

/-- An input without the joiners and the negations in the maps at its top. -/
def unsteered : Value → Value
  | .list items => .list (items.map unsteeredMap)
  | .tuple items => .tuple (items.map unsteeredMap)
  | value => value.unsteeredMap

/-- Whether a list inside a list has a map in it with fields beside a joiner or a negation. -/
def HasMixedGroup (input : Value) : Prop :=
  ∃ items, input.items? = some items ∧
    ∃ group ∈ items, group.items?.isSome = true ∧ group.isUnmixed = false

theorem unsteered_map_eq_text (value : Value) (content : String) :
    value.unsteeredMap = .text content ↔ value = .text content := by
  cases value <;> simp [unsteeredMap]

theorem type_name_unsteered (input : Value) : input.unsteered.typeName = input.typeName := by
  cases input <;> rfl

theorem items_unsteered (input : Value) (items : List Value)
    (sequence : input.items? = some items) :
    input.unsteered.items? = some (items.map unsteeredMap) := by
  obtain rfl | rfl := (input.items_eq_some items).mp sequence
  · rfl
  · rfl

theorem is_unmixed_of_is_operand (value : Value) (operand : value.IsOperand isWritable) :
    value.isUnmixed = true := by
  have unmixed_of_writable : ∀ value : Value, value.isWritable = true → value.isUnmixed = true := by
    intro value writable
    cases value with
    | list items => cases writable
    | tuple items => cases writable
    | map entries => cases writable
    | _ => rfl
  cases operand with
  | scalar scalar => exact unmixed_of_writable value scalar
  | comparison operator operand options parts scalar markers =>
      rw [is_unmixed_sequence value _ parts, List.forall_mem_cons, List.forall_mem_cons]
      refine ⟨rfl, unmixed_of_writable operand scalar, ?_⟩
      intro option member
      have isMarker := markers option member
      cases option with
      | marker mark => rfl
      | _ => cases isMarker

theorem not_has_mixed_group_of_pair (value : Value) (key : String) (operand : Value)
    (parts : value.items? = some [.text key, operand]) (allowed : operand.IsOperand isWritable) :
    ¬value.HasMixedGroup := by
  rintro ⟨items, sequence, group, member, isList, mixed⟩
  rw [parts] at sequence
  cases sequence
  rcases List.mem_cons.mp member with rfl | last
  · cases isList
  · rw [List.mem_singleton.mp last, is_unmixed_of_is_operand operand allowed] at mixed
    cases mixed

end Value

theorem Step.is_rejected_filter (input : Value) :
    (Step.mk .filter input).isRejected = true ↔ ¬Accepted (Filter.read input) := by
  rw [Step.isRejected, Step.edit?, Step.filterEdit?]
  cases Filter.read input <;> simp

namespace Filter

open Value

theorem read_entries_unsteered (nested : Bool) (entries : Entries) :
    readEntries nested entries.unsteered = readEntries nested entries := by
  induction entries with
  | nil => rfl
  | cons entry entries induction =>
      obtain ⟨key, value⟩ := entry
      cases key with
      | marker mark => cases mark <;> exact induction
      | text key =>
          change readEntries nested ((.text key, value) :: Entries.unsteered entries) = _
          rw [readEntries, readEntries, induction]
      | _ => rfl

theorem read_map_unsteered (entries : Entries) : readMap entries.unsteered = readMap entries := by
  rw [readMap, readMap, read_entries_unsteered,
    Entries.flag_of_marked entries.marked_nest_unsteered]

theorem read_top_item_unsteered_map (item : Value) :
    readTopItem item.unsteeredMap = readTopItem item := by
  cases item with
  | map entries => rw [unsteeredMap, readTopItem, readTopItem, read_map_unsteered]
  | _ => rfl

theorem read_clauses_unsteered (items : List Value) :
    readClauses (items.map unsteeredMap) = readClauses items := by
  rw [read_clauses_eq_map_m, read_clauses_eq_map_m, List.mapM_map]
  simp only [Function.comp_def, read_top_item_unsteered_map]

theorem accepted_read_item_list (value : Value) (isList : value.items?.isSome = true) :
    Accepted (readItem value) ↔ Accepted (readMember value) := by
  rw [read_item_list value isList, accepted_map]

theorem is_unmixed_of_accepted_read_item (item : Value) (accepted : Accepted (readItem item)) :
    item.isUnmixed = true := by
  induction item using Value.tree_induction with
  | sequence value items sequence each =>
      rw [accepted_read_item_list value (Option.isSome_of_eq_some sequence),
        read_member_sequence value items sequence, accepted_read_group] at accepted
      rw [is_unmixed_sequence value items sequence]
      exact fun item member => each item member (accepted.1 item member)
  | map entries =>
      -- Among nothing but markers there are no fields; otherwise the map must not steer the group.
      by_cases markers : ∀ entry ∈ entries, entry.1.isMarker = true
      · rw [isUnmixed, entries.fields_of_markers markers]
        simp
      · have named : (entries.all fun entry => entry.1.isMarker) = false := by
          rw [Bool.eq_false_iff, ne_eq, List.all_eq_true]
          exact markers
        rw [accepted_read_item, isMarking, marking?, isMixed, ← List.not_all_eq_any_not, named]
          at accepted
        cases steers : Entries.steers entries with
        | false => simp [isUnmixed, steers]
        | true => simp [steers] at accepted
  | other value single noMap =>
      cases value with
      | list items => cases single
      | tuple items => cases single
      | map entries => exact absurd rfl (noMap entries)
      | _ => rfl

theorem is_unmixed_of_accepted_read_member (value : Value) (isList : value.items?.isSome = true)
    (accepted : Accepted (readMember value)) : value.isUnmixed = true :=
  is_unmixed_of_accepted_read_item value ((accepted_read_item_list value isList).mpr accepted)

theorem accepted_read_top_item_iff (item : Value) :
    Accepted (readTopItem item) ↔
      (item.items?.isSome = true → item.isUnmixed = true) ∧ item.IsClause isWritable := by
  by_cases unmixed : item.isUnmixed = true
  · simp [accepted_read_top_item item unmixed, unmixed]
  · have refused : item.items?.isSome = true → ¬Accepted (readMember item) :=
      fun isList accepted => unmixed (is_unmixed_of_accepted_read_member item isList accepted)
    cases item with
    | list items => simpa [readTopItem, items?, unmixed] using refused rfl
    | tuple items => simpa [readTopItem, items?, unmixed] using refused rfl
    | map entries => simp [readTopItem, accepted_read_map, is_clause_map, items?]
    | _ => exact absurd rfl unmixed

theorem accepted_read_iff (input : Value) :
    Accepted (Filter.read input) ↔ ¬input.HasMixedGroup ∧ input.IsFilterInput isWritable := by
  cases sequence : input.items? with
  | none =>
      have noGroup : ¬input.HasMixedGroup := by simp [HasMixedGroup, sequence]
      rw [and_iff_right noGroup]
      cases input with
      | map entries => rw [read_map, accepted_map, accepted_read_map, is_filter_input_map]
      | list items => cases sequence
      | tuple items => cases sequence
      | _ => exact accepted_read _ rfl
  | some items =>
      rw [read_sequence input items sequence,
        is_filter_input_sequence isWritable input items sequence]
      rcases pair_or_several items with ⟨key, operand, rfl⟩ | several
      · have noGroup := not_has_mixed_group_of_pair input key operand sequence
        rw [read_list_pair, accepted_map, accepted_read_entry]
        simpa using noGroup
      · rw [read_list_of_several items several, read_clauses_eq_map_m, accepted_map, accepted_map_m]
        simp only [accepted_read_top_item_iff, HasMixedGroup, sequence, Option.some.injEq]
        simp [several, forall_and]

theorem filter_edit_unsteered (input : Value) :
    Step.filterEdit? input.unsteered = Step.filterEdit? input := by
  cases sequence : input.items? with
  | none =>
      cases input with
      | map entries =>
          have same :
              Filter.read (.map (Entries.unsteered entries)) = Filter.read (.map entries) := by
            rw [read_map, read_map, read_map_unsteered]
          simp only [unsteered, unsteeredMap, Step.filterEdit?, same]
      | list items => cases sequence
      | tuple items => cases sequence
      | _ => rfl
  | some items =>
      rw [Step.filterEdit?, Step.filterEdit?, read_sequence input items sequence,
        read_sequence _ _ (items_unsteered input items sequence)]
      rcases pair_or_several items with ⟨key, operand, rfl⟩ | several
      · -- Only a map is changed, and under a field a map is refused with or without its markers.
        cases operand <;> rfl
      · have severalToo : ∀ key operand, items.map unsteeredMap ≠ [.text key, operand] := by
          intro key operand same
          obtain ⟨first, later, rfl, named, same⟩ := List.map_eq_cons_iff.mp same
          obtain ⟨second, none, rfl, _, same⟩ := List.map_eq_cons_iff.mp same
          rw [List.map_eq_nil_iff] at same
          rw [unsteered_map_eq_text] at named
          exact several key second (by rw [named, same])
        rw [read_list_of_several items several, read_list_of_several _ severalToo,
          read_clauses_unsteered]

/-- Fields beside a joiner or a negation are refused in every list inside a list, and nowhere else:
a filter step is rejected exactly if there is such a map in a group, or if the grammar does not have
the input. At the top the joiner and the negation are passed over. There the step does what it does
without them, down to what is logged. -/
theorem mixed_maps_refused_in_groups (state : State) (input : Value) :
    ((state.step ⟨.filter, input⟩).value = .rejected ⟨.filter, Part.filter.message, state⟩ ↔
      input.HasMixedGroup ∨ ¬input.IsFilterInput isWritable) ∧
    state.step ⟨.filter, input⟩ = state.step ⟨.filter, input.unsteered⟩ := by
  constructor
  · rw [State.step_eq_rejected_iff state ⟨.filter, input⟩, Step.is_rejected_filter,
      accepted_read_iff, not_and_or, not_not]
  · have edits : Step.edit? ⟨.filter, input.unsteered⟩ = Step.edit? ⟨.filter, input⟩ :=
      filter_edit_unsteered input
    rw [State.step, State.step, edits, type_name_unsteered]

/-- A negation beside a field at the top is neither refused nor obeyed. -/
theorem mixed_maps_refused_in_groups_not_at_top :
    let input : Value := .map [(.text "a", .int 1), (.marker .negate, .bool true)]
    let start : State := {}
    let filtered : State := { filters := [.equals "a" "1"] }
    input.isUnmixed = false ∧ (start.step ⟨.filter, input⟩).value = .state filtered ∧
      (∀ rejection, (start.step ⟨.filter, input⟩).value ≠ .rejected rejection) ∧
      filtered.text? = some "*[a == 1]" := by
  intro input start filtered
  have accepted : (start.step ⟨.filter, input⟩).value = .state filtered := rfl
  refine ⟨rfl, accepted, ?_, rfl⟩
  intro rejection rejected
  cases accepted.symm.trans rejected

end Filter

end GroqQuery
