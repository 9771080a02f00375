import GroqQuery.Proofs.Filter.Reading
import GroqQuery.Proofs.Induction

/-!
Which values are filters. The grammar says what may stand where, without the readers: the same list
can be a clause of its own at the top, a comparison under a field, and a group inside another list.
Which values count as scalars in it is left open. With those that have a text, the readers accept
exactly the values of the grammar, as long as no map holds fields beside a joiner or a negation.
-/

namespace GroqQuery

namespace Value

/-- What may stand under a field: a scalar, or an operator, a scalar and any number of markers. -/
inductive IsOperand (counts : Value → Bool) : Value → Prop
  | scalar (value : Value) (scalar : counts value = true) : IsOperand counts value
  | comparison (value : Value) (operator : String) (operand : Value) (options : List Value)
      (parts : value.items? = some (.text operator :: operand :: options))
      (scalar : counts operand = true) (markers : ∀ option ∈ options, option.isMarker = true) :
      IsOperand counts value

end Value

namespace Entries

/-- A map of clauses. Under a nesting marker that holds, comparisons are not allowed. -/
structure AreClauses (counts : Value → Bool) (entries : Entries) : Prop where
  keyed : entries.IsKeyed
  nonempty : entries.fields ≠ []
  operands : ∀ field ∈ entries.fields, field.2.IsOperand counts
  nested : entries.flag .nest = true → ∀ field ∈ entries.fields, counts field.2 = true

end Entries

namespace Value

/-- The first joiner of a list, if there is any, is one of the two that are known. -/
def AreJoined (items : List Value) : Prop :=
  ∀ joiner, (joiners items).head? = some joiner → joiner = .text "&&" ∨ joiner = .text "||"

/-- What may stand in a list of clauses. In a group, maps that steer it may stand anywhere. -/
inductive IsClause (counts : Value → Bool) : Value → Prop
  | finished (clause : Filter) : IsClause counts (.filter clause)
  | fields (entries : Entries) (clauses : entries.AreClauses counts) :
      IsClause counts (.map entries)
  | group (value : Value) (items : List Value) (sequence : value.items? = some items)
      (each : ∀ item ∈ items, item.isMarking = false → IsClause counts item)
      (member : Value) (belongs : member ∈ items) (clause : IsClause counts member)
      (joined : AreJoined items) : IsClause counts value

/-- What may be given as a filter. A field name with its operand is a single clause, and no list. -/
inductive IsFilterInput (counts : Value → Bool) : Value → Prop
  | finished (clause : Filter) : IsFilterInput counts (.filter clause)
  | fields (entries : Entries) (clauses : entries.AreClauses counts) :
      IsFilterInput counts (.map entries)
  | pair (value : Value) (key : String) (operand : Value)
      (parts : value.items? = some [.text key, operand]) (allowed : operand.IsOperand counts) :
      IsFilterInput counts value
  | clauses (value : Value) (items : List Value) (sequence : value.items? = some items)
      (several : ∀ key operand, items ≠ [.text key, operand])
      (each : ∀ item ∈ items, item.IsClause counts) : IsFilterInput counts value

mutual

/-- Whether no map among the clauses of a value has fields beside a joiner or a negation. -/
def isUnmixed : Value → Bool
  | .map entries => !Entries.steers entries || (Entries.fields entries).isEmpty
  | .list items => areUnmixed items
  | .tuple items => areUnmixed items
  | _ => true
termination_by structural value => value

def areUnmixed : List Value → Bool
  | [] => true
  | item :: rest => item.isUnmixed && areUnmixed rest
termination_by structural items => items

end

theorem are_unmixed_iff (items : List Value) :
    areUnmixed items = true ↔ ∀ item ∈ items, item.isUnmixed = true := by
  induction items with
  | nil => simp [areUnmixed]
  | cons item items induction => simp [areUnmixed, induction]

theorem is_unmixed_sequence (value : Value) (items : List Value)
    (sequence : value.items? = some items) :
    value.isUnmixed = true ↔ ∀ item ∈ items, item.isUnmixed = true := by
  rw [← are_unmixed_iff]
  obtain rfl | rfl := (value.items_eq_some items).mp sequence
  · rfl
  · rfl

theorem is_clause_sequence (counts : Value → Bool) (value : Value) (items : List Value)
    (sequence : value.items? = some items) :
    value.IsClause counts ↔
      (∀ item ∈ items, item.isMarking = false → item.IsClause counts) ∧
        (∃ item ∈ items, item.IsClause counts) ∧ AreJoined items := by
  constructor
  · intro clause
    cases clause with
    | finished clause => cases sequence
    | fields entries clauses => cases sequence
    | group _ others same each member belongs clause joined =>
        rw [sequence] at same
        cases same
        exact ⟨each, ⟨member, belongs, clause⟩, joined⟩
  · rintro ⟨each, ⟨member, belongs, clause⟩, joined⟩
    exact .group value items sequence each member belongs clause joined

theorem is_clause_map (counts : Value → Bool) (entries : Entries) :
    (Value.map entries).IsClause counts ↔ entries.AreClauses counts := by
  constructor
  · intro clause
    cases clause with
    | fields _ clauses => exact clauses
    | group _ items sequence => cases sequence
  · exact .fields entries

theorem is_filter_input_sequence (counts : Value → Bool) (value : Value) (items : List Value)
    (sequence : value.items? = some items) :
    value.IsFilterInput counts ↔
      (∃ key operand, items = [.text key, operand] ∧ operand.IsOperand counts) ∨
        (∀ key operand, items ≠ [.text key, operand]) ∧ ∀ item ∈ items, item.IsClause counts := by
  constructor
  · intro input
    cases input with
    | finished clause => cases sequence
    | fields entries clauses => cases sequence
    | pair _ key operand parts allowed =>
        rw [sequence] at parts
        cases parts
        exact .inl ⟨key, operand, rfl, allowed⟩
    | clauses _ others same several each =>
        rw [sequence] at same
        cases same
        exact .inr ⟨several, each⟩
  · rintro (⟨key, operand, rfl, allowed⟩ | ⟨several, each⟩)
    · exact .pair value key operand sequence allowed
    · exact .clauses value items sequence several each

theorem is_filter_input_map (counts : Value → Bool) (entries : Entries) :
    (Value.map entries).IsFilterInput counts ↔ entries.AreClauses counts := by
  constructor
  · intro input
    cases input with
    | fields _ clauses => exact clauses
    | pair _ key operand parts => cases parts
    | clauses _ items sequence => cases sequence
  · exact .fields entries

end Value

namespace Filter

open Value

theorem accepted_read_entry (nested : Bool) (key : String) (value : Value) :
    Accepted (readEntry nested key value) ↔
      value.IsOperand isWritable ∧ (nested = true → value.isWritable = true) := by
  cases nested with
  | true =>
      simp only [Accepted, read_entry_nested, isWritable, Option.isSome_iff_exists]
      constructor
      · rintro ⟨clause, text, scalar, _⟩
        exact ⟨.scalar value (Option.isSome_of_eq_some scalar), fun _ => ⟨text, scalar⟩⟩
      · rintro ⟨_, scalar⟩
        obtain ⟨text, found⟩ := scalar trivial
        exact ⟨.call key text, text, found, rfl⟩
  | false =>
      simp only [Accepted, read_entry_plain, read_comparison_eq_ok]
      constructor
      · rintro ⟨clause, ⟨text, scalar, _⟩ | ⟨parts, sequence, operator, operand, options, text,
          rfl, scalar, markers, _⟩⟩
        · exact ⟨.scalar value (Option.isSome_of_eq_some scalar), by simp⟩
        · exact ⟨.comparison value operator operand options sequence
            (Option.isSome_of_eq_some scalar) markers, by simp⟩
      · rintro ⟨operand, _⟩
        cases operand with
        | scalar scalar =>
            obtain ⟨text, found⟩ := Option.isSome_iff_exists.mp scalar
            exact ⟨.equals key text, .inl ⟨text, found, rfl⟩⟩
        | comparison operator operand options parts scalar markers =>
            obtain ⟨text, found⟩ := Option.isSome_iff_exists.mp scalar
            exact ⟨_, .inr ⟨_, parts, operator, operand, options, text, rfl, found, markers, rfl⟩⟩

theorem accepted_read_map (entries : Entries) :
    Accepted (readMap entries) ↔ entries.AreClauses isWritable := by
  have each : Accepted (entries.fields.mapM fun field =>
      readEntry (entries.flag .nest) field.1 field.2) ↔ ∀ field ∈ entries.fields,
        field.2.IsOperand isWritable ∧ (entries.flag .nest = true → field.2.isWritable = true) := by
    simp only [accepted_map_m, accepted_read_entry]
  constructor
  · rintro ⟨⟨first, others⟩, read⟩
    obtain ⟨keyed, fields⟩ := (read_map_eq_ok entries first others).mp read
    have allowed := each.mp ⟨_, fields⟩
    constructor
    case keyed => exact keyed
    case nonempty =>
      intro empty
      rw [empty] at fields
      cases fields
    case operands => exact fun field member => (allowed field member).1
    case nested => exact fun nested field member => (allowed field member).2 nested
  · intro clauses
    obtain ⟨filters, read⟩ := each.mpr fun field member =>
      ⟨clauses.operands field member, fun nested => clauses.nested nested field member⟩
    cases filters with
    | nil =>
        have empty := ((map_m_eq_ok _ _ _).mp read).length_eq
        exact absurd (List.eq_nil_of_length_eq_zero empty) clauses.nonempty
    | cons first others => exact ⟨(first, others), (read_map_eq_ok _ _ _).mpr ⟨clauses.keyed, read⟩⟩

theorem accepted_joiner_of (items : List Value) :
    Accepted (joinerOf (items.filterMap marking?)) ↔ AreJoined items := by
  simp only [Accepted, joiner_of_eq_ok, named_joiner_markings, AreJoined]
  cases (joiners items).head? with
  | none => simp
  | some joiner =>
      simp only [reduceCtorEq, false_and, false_or, Option.some.injEq, forall_eq']
      constructor
      · rintro ⟨known, rfl⟩
        cases known with
        | both => exact .inl rfl
        | either => exact .inr rfl
      · rintro (rfl | rfl)
        · exact ⟨.both, rfl⟩
        · exact ⟨.either, rfl⟩

theorem not_is_marking_of_is_clause (item : Value) (clause : item.IsClause isWritable) :
    item.isMarking = false := by
  cases clause with
  | finished clause => rfl
  | fields entries clauses =>
      have someField : ¬(entries.all fun entry => entry.1.isMarker) = true := by
        intro markers
        exact clauses.nonempty (entries.fields_of_markers (List.all_eq_true.mp markers))
      rw [isMarking, marking?, if_neg (by simp [someField])]
      rfl
  | group _ items sequence =>
      cases item with
      | map entries => cases sequence
      | _ => rfl

theorem not_is_mixed_of_is_clause (item : Value) (unmixed : item.isUnmixed = true)
    (clause : item.IsClause isWritable) : item.isMixed = false := by
  cases item with
  | map entries =>
      have nonempty := ((is_clause_map isWritable entries).mp clause).nonempty
      rw [isUnmixed] at unmixed
      rw [isMixed]
      simp_all
  | _ => rfl

theorem accepted_read_member (value : Value) (unmixed : value.isUnmixed = true) :
    Accepted (readMember value) ↔ value.IsClause isWritable := by
  induction value using Value.tree_induction with
  | sequence value items sequence each =>
      have unmixedEach := (is_unmixed_sequence value items sequence).mp unmixed
      -- A map that steers the group is taken as it is; whatever else stands in it is a clause.
      have reads : ∀ item ∈ items, (Accepted (readItem item) ↔
          (item.isMarking = false → item.IsClause isWritable)) := by
        intro item member
        rw [accepted_read_item, each item member (unmixedEach item member)]
        constructor
        · rintro (marking | ⟨_, clause⟩) plain
          · rw [marking] at plain
            cases plain
          · exact clause
        · intro given
          cases marking : item.isMarking with
          | true => exact .inl rfl
          | false =>
              have clause := given marking
              exact .inr ⟨not_is_mixed_of_is_clause item (unmixedEach item member) clause, clause⟩
      rw [read_member_sequence value items sequence, accepted_read_group, accepted_joiner_of,
        is_clause_sequence isWritable value items sequence]
      constructor
      · rintro ⟨all, joined, item, member, plain⟩
        have clauses : ∀ item ∈ items, item.isMarking = false → item.IsClause isWritable :=
          fun item member => (reads item member).mp (all item member)
        exact ⟨clauses, ⟨item, member, clauses item member plain⟩, joined⟩
      · rintro ⟨clauses, ⟨item, member, clause⟩, joined⟩
        exact ⟨fun item member => (reads item member).mpr (clauses item member), joined, item,
          member, not_is_marking_of_is_clause item clause⟩
  | map entries => rw [read_member_map, accepted_map, accepted_read_map, is_clause_map]
  | other value single noMap =>
      cases value with
      | filter clause => exact ⟨fun _ => .finished clause, fun _ => ⟨clause, rfl⟩⟩
      | list items => cases single
      | tuple items => cases single
      | map entries => exact absurd rfl (noMap entries)
      | _ =>
          constructor
          · rintro ⟨_, read⟩
            cases read
          · intro clause
            cases clause with
            | group _ items sequence => cases sequence

theorem accepted_read_top_item (item : Value) (unmixed : item.isUnmixed = true) :
    Accepted (readTopItem item) ↔ item.IsClause isWritable := by
  rw [← accepted_read_member item unmixed]
  cases item with
  | map entries => rw [readTopItem, read_member_map, accepted_map, accepted_map]
  | _ => simp only [readTopItem, accepted_map]

theorem accepted_read_clauses (items : List Value)
    (unmixed : ∀ item ∈ items, item.isUnmixed = true) :
    Accepted (readClauses items) ↔ ∀ item ∈ items, item.IsClause isWritable := by
  rw [read_clauses_eq_map_m, accepted_map, accepted_map_m]
  exact forall₂_congr fun item member => accepted_read_top_item item (unmixed item member)

theorem accepted_read_list (items : List Value)
    (unmixed : ∀ item ∈ items, item.isUnmixed = true) :
    Accepted (readList items) ↔
      (∃ key operand, items = [.text key, operand] ∧ operand.IsOperand isWritable) ∨
        (∀ key operand, items ≠ [.text key, operand]) ∧
          ∀ item ∈ items, item.IsClause isWritable := by
  rcases pair_or_several items with ⟨key, operand, rfl⟩ | several
  · rw [read_list_pair, accepted_map, accepted_read_entry]
    simp
  · rw [read_list_of_several items several, accepted_read_clauses items unmixed]
    simp [several]

theorem accepted_read (value : Value) (unmixed : value.isUnmixed = true) :
    Accepted (Filter.read value) ↔ value.IsFilterInput isWritable := by
  cases sequence : value.items? with
  | some items =>
      have unmixedEach := (is_unmixed_sequence value items sequence).mp unmixed
      rw [read_sequence value items sequence, accepted_read_list items unmixedEach,
        is_filter_input_sequence isWritable value items sequence]
  | none =>
      cases value with
      | filter clause => exact ⟨fun _ => .finished clause, fun _ => ⟨[clause], rfl⟩⟩
      | map entries => rw [read_map, accepted_map, accepted_read_map, is_filter_input_map]
      | list items => cases sequence
      | tuple items => cases sequence
      | _ =>
          constructor
          · rintro ⟨_, read⟩
            cases read
          · intro input
            cases input with
            | pair _ key operand parts => cases parts
            | clauses _ items same => cases same

end Filter

end GroqQuery
