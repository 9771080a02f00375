import GroqQuery.Proofs.Filter.Reading
import GroqQuery.Proofs.Induction
import GroqQuery.Proofs.Scalars

/-!
Operands of filters. Reading a filter writes an operand for every place of the input where one is
taken, in order: under a field, behind an operator and in a call, in maps and lists at any depth.
-/

namespace GroqQuery

namespace Filter

mutual

/-- The operands of a clause from left to right. A clause that is given as its text has none. -/
def operands : Filter → List String
  | .equals _ value => [value]
  | .compare _ _ value _ => [value]
  | .group first others _ _ => first.operands ++ operandsOfEach others
  | .raw _ => []
  | .call _ argument => [argument]
termination_by structural filter => filter

def operandsOfEach : List Filter → List String
  | [] => []
  | filter :: rest => filter.operands ++ operandsOfEach rest
termination_by structural filters => filters

end

theorem operands_of_each_eq_flat_map (filters : List Filter) :
    operandsOfEach filters = filters.flatMap operands := by
  induction filters with
  | nil => rfl
  | cons filter rest induction => rw [operandsOfEach, induction, List.flatMap_cons]

theorem operands_group (first : Filter) (others : List Filter) (joiner : Joiner) (negated : Bool) :
    (group first others joiner negated).operands = (first :: others).flatMap operands := by
  rw [operands, operands_of_each_eq_flat_map, List.flatMap_cons]

theorem operands_conjunction (first : Filter) (others : List Filter) :
    (conjunction first others).operands = (first :: others).flatMap operands := by
  cases others with
  | nil => simp [conjunction]
  | cons second others => exact operands_group first (second :: others) .both false

end Filter

def Value.fieldOperand (value : Value) : Operand :=
  match value.items? with
  | some (_ :: operand :: _) => .given operand
  | _ => .given value

def Entries.operands (entries : Entries) : List Operand :=
  entries.fields.map fun field => field.2.fieldOperand

namespace Value

mutual

/-- The operands of what stands in a list of clauses. Maps that steer a group have no fields. -/
def clauseOperands : Value → List Operand
  | .filter clause => clause.operands.map .finished
  | .map entries => Entries.operands entries
  | .list items => clausesOperands items
  | .tuple items => clausesOperands items
  | _ => []
termination_by structural value => value

def clausesOperands : List Value → List Operand
  | [] => []
  | item :: rest => item.clauseOperands ++ clausesOperands rest
termination_by structural items => items

end

def filterOperands (input : Value) : List Operand :=
  match input.items? with
  | some [.text _, operand] => [operand.fieldOperand]
  | some items => items.flatMap clauseOperands
  | none => input.clauseOperands

theorem clause_operands_marking (item : Value) (marking : item.isMarking = true) :
    item.clauseOperands = [] := by
  cases item with
  | map entries =>
      have markers : ∀ entry ∈ entries, entry.1.isMarker = true := by
        rw [isMarking, marking?] at marking
        split at marking
        next both =>
          rw [Bool.and_eq_true] at both
          exact List.all_eq_true.mp both.2
        next => cases marking
      rw [clauseOperands, Entries.operands, Entries.fields_of_markers entries markers]
      rfl
  | _ => cases marking

theorem clauses_operands_eq_flat_map (items : List Value) :
    clausesOperands items =
      (items.filter fun item => !item.isMarking).flatMap clauseOperands := by
  induction items with
  | nil => rfl
  | cons item rest induction =>
      rw [clausesOperands, induction]
      cases marking : item.isMarking with
      | true =>
          rw [clause_operands_marking item marking, List.filter_cons_of_neg (by simp [marking])]
          rfl
      | false => rw [List.filter_cons_of_pos (by simp [marking]), List.flatMap_cons]

theorem clause_operands_sequence (value : Value) (items : List Value)
    (sequence : value.items? = some items) :
    value.clauseOperands =
      (items.filter fun item => !item.isMarking).flatMap clauseOperands := by
  rw [← clauses_operands_eq_flat_map]
  obtain rfl | rfl := (value.items_eq_some items).mp sequence
  · rfl
  · rfl

theorem filter_operands_of_several (value : Value) (items : List Value)
    (sequence : value.items? = some items) (several : ∀ key operand, items ≠ [.text key, operand]) :
    value.filterOperands = items.flatMap clauseOperands := by
  unfold filterOperands
  rw [sequence]
  split
  next key operand same => cases same; exact absurd rfl (several key operand)
  next items same => cases same; rfl
  next same => cases same

end Value

namespace Filter

theorem read_entry_operands (nested : Bool) (key : String) (value : Value) (clause : Filter)
    (read : readEntry nested key value = .ok clause) :
    List.Forall₂ Operand.Appears [value.fieldOperand] clause.operands := by
  have plain : ∀ text, value.scalar? = some text →
      List.Forall₂ Operand.Appears [value.fieldOperand] [text] := by
    intro text scalar
    have operand : value.fieldOperand = .given value := by
      cases value with
      | list items => cases scalar
      | tuple items => cases scalar
      | _ => rfl
    rw [operand]
    exact .cons (.given scalar) .nil
  cases nested with
  | true =>
      obtain ⟨text, scalar, rfl⟩ := (read_entry_nested key value clause).mp read
      exact plain text scalar
  | false =>
      rcases (read_entry_plain key value clause).mp read with
        ⟨text, scalar, rfl⟩ | ⟨parts, sequence, compared⟩
      · exact plain text scalar
      · obtain ⟨operator, operand, options, text, rfl, scalar, _, rfl⟩ :=
          (read_comparison_eq_ok key parts clause).mp compared
        rw [Value.fieldOperand, sequence]
        exact .cons (.given scalar) .nil

theorem read_map_operands (entries : Entries) (first : Filter) (others : List Filter)
    (read : readMap entries = .ok (first, others)) :
    List.Forall₂ Operand.Appears entries.operands ((first :: others).flatMap operands) := by
  obtain ⟨_, fields⟩ := (read_map_eq_ok entries first others).mp read
  rw [Entries.operands, List.map_eq_flatMap]
  apply flat_map_of_map_m fields
  intro field _ clause read
  exact read_entry_operands _ field.1 field.2 clause read

theorem read_member_operands (value : Value) (clause : Filter)
    (read : readMember value = .ok clause) :
    List.Forall₂ Operand.Appears value.clauseOperands clause.operands := by
  induction value using Value.tree_induction generalizing clause with
  | sequence value items sequence each =>
      rw [read_member_sequence value items sequence] at read
      obtain ⟨_, joiner, first, others, _, clauses, rfl⟩ := (read_group_eq_ok items clause).mp read
      rw [Value.clause_operands_sequence value items sequence, operands_group]
      apply flat_map_of_map_m clauses
      intro item member
      exact each item (List.mem_of_mem_filter member)
  | map entries =>
      rw [read_member_map, map_eq_ok] at read
      obtain ⟨⟨first, others⟩, read, rfl⟩ := read
      rw [operands_conjunction]
      exact read_map_operands entries first others read
  | other value single noMap =>
      cases value with
      | filter clause =>
          cases read
          exact Operand.appear_finished clause.operands
      | list items => cases single
      | tuple items => cases single
      | map entries => exact absurd rfl (noMap entries)
      | _ => cases read

theorem read_top_item_operands (item : Value) (clauses : List Filter)
    (read : readTopItem item = .ok clauses) :
    List.Forall₂ Operand.Appears item.clauseOperands (clauses.flatMap operands) := by
  have single : ∀ clauses, (fun clause => [clause]) <$> readMember item = .ok clauses →
      List.Forall₂ Operand.Appears item.clauseOperands (clauses.flatMap operands) := by
    intro clauses given
    obtain ⟨clause, found, rfl⟩ := (map_eq_ok _ _ _).mp given
    rw [List.flatMap_singleton]
    exact read_member_operands item clause found
  cases item with
  | map entries =>
      obtain ⟨⟨first, others⟩, found, rfl⟩ := (map_eq_ok _ _ _).mp read
      exact read_map_operands entries first others found
  | _ => exact single clauses read

theorem read_clauses_operands (items : List Value) (filters : List Filter)
    (read : readClauses items = .ok filters) :
    List.Forall₂ Operand.Appears (items.flatMap Value.clauseOperands)
      (filters.flatMap operands) := by
  rw [read_clauses_eq_map_m, map_eq_ok] at read
  obtain ⟨each, read, rfl⟩ := read
  rw [← List.flatMap_id, List.flatMap_assoc]
  apply flat_map_of_map_m read
  intro item _ clauses read
  exact read_top_item_operands item clauses read

theorem read_operands (input : Value) (filters : List Filter)
    (accepted : Filter.read input = .ok filters) :
    List.Forall₂ Operand.Appears input.filterOperands (filters.flatMap operands) := by
  cases sequence : input.items? with
  | some items =>
      rcases pair_or_several items with ⟨key, operand, rfl⟩ | several
      · rw [read_sequence input _ sequence, read_list_pair, map_eq_ok] at accepted
        obtain ⟨clause, read, rfl⟩ := accepted
        rw [Value.filterOperands, sequence, List.flatMap_singleton]
        exact read_entry_operands false key operand clause read
      · rw [read_of_several input items sequence several] at accepted
        rw [Value.filter_operands_of_several input items sequence several]
        exact read_clauses_operands items filters accepted
  | none =>
      rw [Value.filterOperands, sequence]
      cases input with
      | filter clause =>
          cases accepted
          rw [List.flatMap_singleton]
          exact Operand.appear_finished clause.operands
      | map entries =>
          rw [read_map, map_eq_ok] at accepted
          obtain ⟨⟨first, others⟩, read, rfl⟩ := accepted
          exact read_map_operands entries first others read
      | list items => cases sequence
      | tuple items => cases sequence
      | _ => cases accepted

end Filter

end GroqQuery
