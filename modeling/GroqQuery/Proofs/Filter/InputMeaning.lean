import GroqQuery.Proofs.Filter.Grammar
import GroqQuery.Proofs.Filter.Meaning

/-!
What inputs for filters mean, and that reading them keeps the meaning. The meaning is given to the
input as it stands: everything at the top has to hold, the fields of a map have to hold, and a list
inside another list is a group of alternatives unless the maps that steer it say otherwise.
-/

namespace GroqQuery

namespace Value

def fieldHolds (valuation : String → Bool) (nested : Bool) (key : String) (value : Value) : Bool :=
  match value.scalar?, value.items? with
  | some written, _ =>
      valuation (if nested then key ++ "(" ++ written ++ ")" else key ++ " == " ++ written)
  | none, some (.text operator :: operand :: options) =>
      options.any isNegation ^^
        valuation (key ++ " " ++ operator ++ " " ++ operand.scalar?.getD "")
  | none, _ => false

end Value

def Entries.fieldsHold (valuation : String → Bool) (entries : Entries) : Bool :=
  entries.fields.all fun field =>
    Value.fieldHolds valuation (entries.flag .nest) field.1 field.2

namespace Value

/-- How the clauses of a list are joined: as alternatives, unless the first joiner that is named
among them asks for all of them. -/
def groupJoiner (items : List Value) : Joiner :=
  match (joiners items).head? with
  | some (.text "&&") => .both
  | _ => .either

def isNegated (items : List Value) : Bool :=
  (items.filterMap marking?).any fun entries => entries.flag .negate

mutual

/-- The meaning of what stands in a list of clauses. A value that is no clause means nothing; it
counts as not holding. -/
def clauseHolds (valuation : String → Bool) : Value → Bool
  | .filter clause => clause.holds valuation
  | .map entries => Entries.fieldsHold valuation entries
  | .list items => isNegated items ^^ (groupJoiner items).combine (clausesHold valuation items)
  | .tuple items => isNegated items ^^ (groupJoiner items).combine (clausesHold valuation items)
  | _ => false
termination_by structural value => value

def clausesHold (valuation : String → Bool) : List Value → List Bool
  | [] => []
  | item :: rest =>
      if item.isMarking then clausesHold valuation rest
      else item.clauseHolds valuation :: clausesHold valuation rest
termination_by structural items => items

end

def inputHolds (valuation : String → Bool) (value : Value) : Bool :=
  match value.items? with
  | some [.text key, operand] => fieldHolds valuation false key operand
  | some items => items.all (clauseHolds valuation)
  | none => value.clauseHolds valuation

variable (valuation : String → Bool)

theorem clauses_hold_eq_map (items : List Value) :
    clausesHold valuation items =
      (items.filter fun item => !item.isMarking).map (clauseHolds valuation) := by
  induction items with
  | nil => rfl
  | cons item items induction =>
      cases marking : item.isMarking <;> simp [clausesHold, marking, induction]

theorem clause_holds_sequence (value : Value) (items : List Value)
    (sequence : value.items? = some items) :
    value.clauseHolds valuation =
      (isNegated items ^^ (groupJoiner items).combine
        ((items.filter fun item => !item.isMarking).map (clauseHolds valuation))) := by
  rw [← clauses_hold_eq_map]
  obtain rfl | rfl := (value.items_eq_some items).mp sequence
  · rfl
  · rfl

theorem input_holds_pair (value : Value) (key : String) (operand : Value)
    (sequence : value.items? = some [.text key, operand]) :
    value.inputHolds valuation = operand.fieldHolds valuation false key := by
  rw [inputHolds, sequence]

theorem input_holds_of_several (value : Value) (items : List Value)
    (sequence : value.items? = some items) (several : ∀ key operand, items ≠ [.text key, operand]) :
    value.inputHolds valuation = items.all (clauseHolds valuation) := by
  unfold inputHolds
  rw [sequence]
  split
  next key operand same => cases same; exact absurd rfl (several key operand)
  next items same => cases same; rfl
  next same => cases same

end Value

namespace Filter

variable (valuation : String → Bool)

theorem conjunction_holds (first : Filter) (others : List Filter) :
    (conjunction first others).holds valuation = (first :: others).all (holds valuation) := by
  cases others with
  | nil => simp [conjunction]
  | cons second others => simp [conjunction, holds, Joiner.combine]

theorem read_entry_holds (nested : Bool) (key : String) (value : Value) (clause : Filter)
    (read : readEntry nested key value = .ok clause) :
    clause.holds valuation = value.fieldHolds valuation nested key := by
  cases nested with
  | true =>
      obtain ⟨text, scalar, rfl⟩ := (read_entry_nested key value clause).mp read
      simp [Value.fieldHolds, scalar, holds]
  | false =>
      rcases (read_entry_plain key value clause).mp read with
        ⟨text, scalar, rfl⟩ | ⟨parts, sequence, compared⟩
      · simp [Value.fieldHolds, scalar, holds]
      · obtain ⟨operator, operand, options, text, rfl, scalar, _, rfl⟩ :=
          (read_comparison_eq_ok key parts clause).mp compared
        have noScalar : value.scalar? = none := by
          cases value with
          | list items => rfl
          | tuple items => rfl
          | _ => cases sequence
        simp [Value.fieldHolds, noScalar, sequence, scalar, holds]

theorem read_map_holds (entries : Entries) (first : Filter) (others : List Filter)
    (read : readMap entries = .ok (first, others)) :
    (first :: others).all (holds valuation) = entries.fieldsHold valuation := by
  obtain ⟨_, fields⟩ := (read_map_eq_ok entries first others).mp read
  have same : (first :: others).map (holds valuation) = entries.fields.map fun field =>
      Value.fieldHolds valuation (entries.flag .nest) field.1 field.2 :=
    map_of_map_m fields fun field _ clause read => read_entry_holds valuation _ _ _ clause read
  calc (first :: others).all (holds valuation)
      = ((first :: others).map (holds valuation)).all id := by rw [List.all_map]; rfl
    _ = entries.fieldsHold valuation := by rw [same, List.all_map]; rfl

theorem joiner_of_group_joiner (items : List Value) (joiner : Joiner)
    (joined : joinerOf (items.filterMap Value.marking?) = .ok joiner) :
    joiner = Value.groupJoiner items := by
  rw [joiner_of_eq_ok, named_joiner_markings] at joined
  rw [Value.groupJoiner]
  rcases joined with ⟨none, rfl⟩ | named
  · rw [none]
  · rw [named]
    cases joiner with
    | both => rfl
    | either => simp [Joiner.text]

theorem read_member_holds (value : Value) (clause : Filter) (read : readMember value = .ok clause) :
    clause.holds valuation = value.clauseHolds valuation := by
  induction value using Value.tree_induction generalizing clause with
  | sequence value items sequence each =>
      rw [read_member_sequence value items sequence] at read
      obtain ⟨_, joiner, first, others, joined, clauses, rfl⟩ :=
        (read_group_eq_ok items clause).mp read
      have same : (first :: others).map (holds valuation) =
          (items.filter fun item => !item.isMarking).map (Value.clauseHolds valuation) :=
        map_of_map_m clauses fun item member clause read =>
          each item (List.mem_of_mem_filter member) clause read
      rw [Value.clause_holds_sequence valuation value items sequence, ← same, holds,
        hold_each_eq_map, List.map_cons, joiner_of_group_joiner items joiner joined]
      rfl
  | map entries =>
      rw [read_member_map, map_eq_ok] at read
      obtain ⟨⟨first, others⟩, read, rfl⟩ := read
      rw [conjunction_holds, read_map_holds valuation entries first others read]
      rfl
  | other value single noMap =>
      cases value with
      | filter clause => cases read; rfl
      | list items => cases single
      | tuple items => cases single
      | map entries => exact absurd rfl (noMap entries)
      | _ => cases read

theorem read_top_item_holds (item : Value) (clauses : List Filter)
    (read : readTopItem item = .ok clauses) :
    clauses.all (holds valuation) = item.clauseHolds valuation := by
  have single : ∀ clauses, (fun clause => [clause]) <$> readMember item = .ok clauses →
      clauses.all (holds valuation) = item.clauseHolds valuation := by
    intro clauses given
    obtain ⟨clause, found, rfl⟩ := (map_eq_ok _ _ _).mp given
    simp [read_member_holds valuation item clause found]
  cases item with
  | map entries =>
      obtain ⟨⟨first, others⟩, found, rfl⟩ := (map_eq_ok _ _ _).mp read
      exact read_map_holds valuation entries first others found
  | _ => exact single clauses read

theorem read_clauses_holds (items : List Value) (filters : List Filter)
    (read : readClauses items = .ok filters) :
    filters.all (holds valuation) = items.all (Value.clauseHolds valuation) := by
  rw [read_clauses_eq_map_m, map_eq_ok] at read
  obtain ⟨each, read, rfl⟩ := read
  have same : each.map (fun clauses => clauses.all (holds valuation)) =
      items.map (Value.clauseHolds valuation) :=
    map_of_map_m read fun item _ clauses read => read_top_item_holds valuation item clauses read
  calc each.flatten.all (holds valuation)
      = (each.map fun clauses => clauses.all (holds valuation)).all id := by
        rw [List.all_flatten, List.all_map]; rfl
    _ = items.all (Value.clauseHolds valuation) := by rw [same, List.all_map]; rfl

/-- Reading keeps the meaning. The filters that an input is read as hold together exactly when the
input holds, in whichever way its clauses are spelled, nested, joined and negated. -/
theorem read_keeps_meaning (input : Value) (filters : List Filter)
    (accepted : Filter.read input = .ok filters) (valuation : String → Bool) :
    filters.all (holds valuation) = input.inputHolds valuation := by
  cases sequence : input.items? with
  | some items =>
      rw [read_sequence input items sequence] at accepted
      by_cases pair : ∃ key operand, items = [.text key, operand]
      · obtain ⟨key, operand, rfl⟩ := pair
        rw [read_list_pair, map_eq_ok] at accepted
        obtain ⟨clause, read, rfl⟩ := accepted
        rw [Value.input_holds_pair valuation input key operand sequence]
        simp [read_entry_holds valuation false key operand clause read]
      · have several : ∀ key operand, items ≠ [.text key, operand] :=
          fun key operand same => pair ⟨key, operand, same⟩
        rw [read_list_of_several items several] at accepted
        rw [Value.input_holds_of_several valuation input items sequence several]
        exact read_clauses_holds valuation items filters accepted
  | none =>
      rw [Value.inputHolds, sequence]
      cases input with
      | filter clause => cases accepted; simp [Value.clauseHolds]
      | map entries =>
          rw [read_map, map_eq_ok] at accepted
          obtain ⟨⟨first, others⟩, read, rfl⟩ := accepted
          exact read_map_holds valuation entries first others read
      | list items => cases sequence
      | tuple items => cases sequence
      | _ => cases accepted

/-- A map beside a negated group that holds another map and a group of its own. -/
theorem read_keeps_meaning_nested :
    let input : Value :=
      .list [.map [(.text "a", .int 1), (.text "b", .null)],
        .list [.map [(.text "c", .text "x"), (.text "d", .text "y")],
          .map [(.marker .negate, .bool true)],
          .tuple [.map [(.text "e", .list [.text ">", .int 2])],
            .map [(.marker .join, .text "&&")], .filter (.raw "f")]]]
    ∃ filters, Filter.read input = .ok filters ∧ ∀ valuation : String → Bool,
      filters.all (holds valuation) =
        ((valuation "a == 1" && valuation "b == null") &&
          !((valuation "c == x" && valuation "d == y") ||
            (valuation "e > 2" && valuation "f"))) := by
  intro input
  refine ⟨_, rfl, ?_⟩
  intro valuation
  rw [read_keeps_meaning input _ rfl valuation]
  change (valuation "a == 1" && (valuation "b == null" && true) &&
    ((true ^^ (valuation "c == x" && (valuation "d == y" && true) ||
      ((false ^^ ((false ^^ valuation "e > 2") && true && (valuation "f" && true))) || false))) &&
      true)) = _
  simp

end Filter

end GroqQuery
