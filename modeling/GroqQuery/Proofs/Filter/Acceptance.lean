import GroqQuery.Proofs.Filter.Grammar
import GroqQuery.Proofs.Numbers

/-!
Which values are accepted as filters. Where all numbers have numerals, these are the values of the
grammar in which every scalar counts, and all others are refused for what they are. Where a number
has none, it counts for nothing in the grammar, and the failure may be about the number alone.
-/

namespace GroqQuery

namespace Value

section

variable {counts other : Value → Bool}
  (same : ∀ value : Value, value.IsShort → counts value = true → other value = true)

include same

theorem IsOperand.recount (value : Value) (short : value.IsShort)
    (operand : value.IsOperand counts) : value.IsOperand other := by
  cases operand with
  | scalar scalar => exact .scalar value (same value short scalar)
  | comparison operator operand options parts scalar markers =>
      have each := (is_short_sequence value _ parts).mp short
      exact .comparison value operator operand options parts
        (same operand (each operand (by simp)) scalar) markers

theorem AreClauses.recount (entries : Entries) (short : (Value.map entries).IsShort)
    (clauses : entries.AreClauses counts) : entries.AreClauses other := by
  have each : ∀ field ∈ entries.fields, field.2.IsShort := by
    intro field member
    exact ((is_short_map entries).mp short _ ((entries.mem_fields field).mp member)).2
  constructor
  case keyed => exact clauses.keyed
  case nonempty => exact clauses.nonempty
  case operands =>
    intro field member
    exact (clauses.operands field member).recount same field.2 (each field member)
  case nested =>
    intro nested field member
    exact same field.2 (each field member) (clauses.nested nested field member)

theorem IsClause.recount (value : Value) (short : value.IsShort) (clause : value.IsClause counts) :
    value.IsClause other := by
  induction clause with
  | finished clause => exact .finished clause
  | fields entries clauses => exact .fields entries (AreClauses.recount same entries short clauses)
  | group value items sequence each member belongs clause joined recountEach recount =>
      have shortEach := (is_short_sequence value items sequence).mp short
      refine .group value items sequence ?_ member belongs (recount (shortEach member belongs))
        joined
      intro item member plain
      exact recountEach item member plain (shortEach item member)

theorem IsFilterInput.recount (value : Value) (short : value.IsShort)
    (input : value.IsFilterInput counts) : value.IsFilterInput other := by
  cases input with
  | finished clause => exact .finished clause
  | fields entries clauses => exact .fields entries (AreClauses.recount same entries short clauses)
  | pair _ key operand parts allowed =>
      have shortEach := (is_short_sequence value _ parts).mp short
      exact .pair value key operand parts
        (allowed.recount same operand (shortEach operand (by simp)))
  | clauses _ items sequence several each =>
      have shortEach := (is_short_sequence value items sequence).mp short
      refine .clauses value items sequence several ?_
      intro item member
      exact (each item member).recount same item (shortEach item member)

end

theorem is_filter_input_of_is_short (value : Value) (short : value.IsShort) :
    value.IsFilterInput isScalar ↔ value.IsFilterInput isWritable := by
  constructor
  · apply IsFilterInput.recount _ value short
    intro value short scalar
    rw [value.is_writable_of_is_short short]
    exact scalar
  · apply IsFilterInput.recount _ value short
    intro value _ writable
    exact value.is_scalar_of_is_writable writable

end Value

namespace Filter

open Value

theorem read_comparison_ne_overlong (key : String) (parts : List Value)
    (short : ∀ part ∈ parts, part.IsShort) : readComparison key parts ≠ .error .overlong := by
  unfold readComparison
  split
  next operator value options =>
    split
    next => simp
    next =>
      have written := value.read_scalar_ne_overlong (.comparisonShape key) FilterFault.overlong
        (by simp) (short value (by simp))
      apply bind_ne_error _ _ _ written
      simp
  next => simp

theorem read_entry_ne_overlong (nested : Bool) (key : String) (value : Value)
    (short : value.IsShort) : readEntry nested key value ≠ .error .overlong := by
  unfold readEntry
  split
  next =>
    have written := value.read_scalar_ne_overlong .nestedNotScalar FilterFault.overlong (by simp)
      short
    apply bind_ne_error _ _ _ written
    simp
  next =>
    cases sequence : value.items? with
    | some parts =>
        have shortEach := (is_short_sequence value parts sequence).mp short
        exact read_comparison_ne_overlong key parts shortEach
    | none =>
        have written := value.read_scalar_ne_overlong (.unsupportedValue key value)
          FilterFault.overlong (by simp) short
        apply bind_ne_error _ _ _ written
        simp

theorem read_entries_ne_overlong (nested : Bool) (entries : Entries)
    (short : ∀ entry ∈ entries, entry.1.IsShort ∧ entry.2.IsShort) :
    readEntries nested entries ≠ .error .overlong := by
  induction entries with
  | nil => simp [readEntries]
  | cons entry entries induction =>
      obtain ⟨first, others⟩ := List.forall_mem_cons.mp short
      have later := induction others
      obtain ⟨key, value⟩ := entry
      cases key with
      | marker mark => exact later
      | text name =>
          apply bind_ne_error _ _ _ (read_entry_ne_overlong nested name value first.2)
          intro clause _
          apply bind_ne_error _ _ _ later
          simp
      | _ => simp [readEntries]

theorem read_map_ne_overlong (entries : Entries) (short : (Value.map entries).IsShort) :
    readMap entries ≠ .error .overlong := by
  apply bind_ne_error _ _ _ (read_entries_ne_overlong _ entries ((is_short_map entries).mp short))
  intro clauses _
  cases clauses <;> simp

theorem of_joiner_ne_overlong (found : Value) (short : found.IsShort) :
    FilterFault.ofJoiner found ≠ .overlong := by
  obtain ⟨shown, inspected⟩ := Option.isSome_iff_exists.mp (found.is_printable_iff.mpr short)
  rw [FilterFault.ofJoiner, inspected]
  simp

theorem is_short_of_joiners (items : List Value) (short : ∀ item ∈ items, item.IsShort)
    (joiner : Value) (named : joiner ∈ joiners items) : joiner.IsShort := by
  obtain ⟨entries, steering, holding⟩ := List.mem_filterMap.mp named
  obtain ⟨item, member, marking⟩ := List.mem_filterMap.mp steering
  have given : entries.marked? .join = some joiner := (Option.filter_eq_some_iff.mp holding).1
  cases item with
  | map others =>
      have same : others = entries := by
        rw [marking?] at marking
        split at marking
        next => exact Option.some.inj marking
        next => cases marking
      subst same
      exact is_short_of_marked others .join joiner given (short _ member)
  | _ => cases marking

theorem joiner_of_ne_overlong (items : List Value) (short : ∀ item ∈ items, item.IsShort) :
    joinerOf (items.filterMap Value.marking?) ≠ .error .overlong := by
  intro refused
  obtain ⟨found, named, unnamed⟩ := joiner_of_eq_error _ _ refused
  rw [named_joiner_markings] at named
  have shortFound := is_short_of_joiners items short found (List.mem_of_mem_head? named)
  exact of_joiner_ne_overlong found shortFound unnamed.symm

theorem read_item_ne_overlong (item : Value) (read : readMember item ≠ .error .overlong) :
    readItem item ≠ .error .overlong := by
  unfold readItem
  cases item.marking? with
  | some entries => simp
  | none =>
      cases item.isMixed with
      | true => simp
      | false => exact map_ne_error _ _ _ read

theorem read_member_ne_overlong (value : Value) (short : value.IsShort) :
    readMember value ≠ .error .overlong := by
  induction value using Value.tree_induction with
  | sequence value items sequence each =>
      have shortEach := (is_short_sequence value items sequence).mp short
      rw [read_member_sequence value items sequence, read_members_eq_map_m]
      apply bind_ne_error
      · apply map_m_ne_error
        intro item member
        exact read_item_ne_overlong item (each item member (shortEach item member))
      · intro members reads
        rw [← read_members_eq_map_m] at reads
        rw [groupOf, read_members_markings items members reads]
        apply bind_ne_error _ _ _ (joiner_of_ne_overlong items shortEach)
        intro joiner _
        cases members.filterMap Member.clause? <;> simp
  | map entries =>
      rw [read_member_map]
      exact map_ne_error _ _ _ (read_map_ne_overlong entries short)
  | other value single noMap =>
      cases value with
      | list items => cases single
      | tuple items => cases single
      | map entries => exact absurd rfl (noMap entries)
      | _ => simp [readMember]

theorem read_top_item_ne_overlong (item : Value) (short : item.IsShort) :
    readTopItem item ≠ .error .overlong := by
  cases item with
  | map entries => exact map_ne_error _ _ _ (read_map_ne_overlong entries short)
  | _ => exact map_ne_error _ _ _ (read_member_ne_overlong _ short)

theorem read_list_ne_overlong (items : List Value) (short : ∀ item ∈ items, item.IsShort) :
    readList items ≠ .error .overlong := by
  rcases pair_or_several items with ⟨key, operand, rfl⟩ | several
  · rw [read_list_pair]
    exact map_ne_error _ _ _ (read_entry_ne_overlong false key operand (short operand (by simp)))
  · rw [read_list_of_several items several, read_clauses_eq_map_m]
    apply map_ne_error
    apply map_m_ne_error
    intro item member
    exact read_top_item_ne_overlong item (short item member)

/-- Only a number without a numeral makes a reading fail for the number's sake. -/
theorem read_ne_overlong (value : Value) (short : value.IsShort) :
    Filter.read value ≠ .error .overlong := by
  cases sequence : value.items? with
  | some items =>
      rw [read_sequence value items sequence]
      exact read_list_ne_overlong items ((is_short_sequence value items sequence).mp short)
  | none =>
      cases value with
      | map entries =>
          rw [read_map]
          exact map_ne_error _ _ _ (read_map_ne_overlong entries short)
      | list items => cases sequence
      | tuple items => cases sequence
      | _ => simp [Filter.read]

theorem class_name_of_ne_overlong (fault : FilterFault) (other : fault ≠ .overlong) :
    fault.className = "TypeError" := by
  cases fault with
  | overlong => exact absurd rfl other
  | _ => rfl

/-- A value is accepted as a filter exactly when the grammar has it, however deep its groups are,
where the scalars that count are those that can be written. If all of its numbers can, these are all
scalars, and whatever is not in the grammar is refused as being of the wrong type. -/
theorem read_accepts_exactly (value : Value) (unmixed : value.isUnmixed = true) :
    ((∃ filters, Filter.read value = .ok filters) ↔ value.IsFilterInput isWritable) ∧
      (value.IsShort →
        ((∃ filters, Filter.read value = .ok filters) ↔ value.IsFilterInput isScalar) ∧
        (¬value.IsFilterInput isScalar →
          ∃ fault, Filter.read value = .error fault ∧ fault.className = "TypeError")) := by
  refine ⟨accepted_read value unmixed, ?_⟩
  intro short
  have exactly : Accepted (Filter.read value) ↔ value.IsFilterInput isScalar := by
    rw [is_filter_input_of_is_short value short]
    exact accepted_read value unmixed
  refine ⟨exactly, ?_⟩
  intro outside
  rw [← exactly, not_accepted_iff] at outside
  obtain ⟨fault, refused⟩ := outside
  refine ⟨fault, refused, class_name_of_ne_overlong fault ?_⟩
  intro same
  exact read_ne_overlong value short (same ▸ refused)

/-- A group in a group, among maps of which only the first joiner that holds counts, and a group
that is negated but empty. -/
theorem read_accepts_exactly_nested :
    let accepted : Value :=
      .list [.list [.map [(.text "a", .int 1)], .map [(.marker .join, .int 0)],
          .map [(.marker .join, .text "&&")], .map [(.marker .join, .text "xor")],
          .tuple [.map [(.text "b", .list [.text "in", .text "c", .marker .negate])]]],
        .filter (.raw "d")]
    let refused : Value := .list [.filter (.raw "d"), .list [.map [(.marker .negate, .bool true)]]]
    accepted.isUnmixed = true ∧ accepted.IsShort ∧ accepted.IsFilterInput isScalar ∧
      refused.isUnmixed = true ∧ refused.IsShort ∧ ¬refused.IsFilterInput isScalar ∧
      ∃ fault, Filter.read refused = .error fault ∧ fault.className = "TypeError" := by
  intro accepted refused
  have shortAccepted : accepted.IsShort := by
    change ∀ number ∈ [1, 0], HasNumeral number
    rw [List.forall_mem_cons, List.forall_mem_singleton]
    exact ⟨has_numeral_digit 1 (by decide), has_numeral_digit 0 (by decide)⟩
  have shortRefused : refused.IsShort := by
    intro number member
    cases member
  obtain ⟨_, ofAccepted⟩ := read_accepts_exactly accepted rfl
  obtain ⟨_, ofRefused⟩ := read_accepts_exactly refused rfl
  have outside : ¬refused.IsFilterInput isScalar := by
    intro input
    obtain ⟨filters, read⟩ := (ofRefused shortRefused).1.mpr input
    cases read
  exact ⟨rfl, shortAccepted, (ofAccepted shortAccepted).1.mp ⟨_, rfl⟩, rfl, shortRefused, outside,
    (ofRefused shortRefused).2 outside⟩

/-- A number of too many digits is a scalar, and a map with it is in the grammar; it is refused, and
not for being of the wrong type. -/
theorem read_accepts_exactly_not_if_overlong :
    let number : Int := (9 * 10 ^ 4299 : Nat) + (9 * 10 ^ 4299 : Nat)
    let value : Value := .map [(.text "a", .int number)]
    value.isUnmixed = true ∧ value.IsFilterInput isScalar ∧
      ∃ fault, Filter.read value = .error fault ∧ fault.className = "ValueError" := by
  intro number value
  have unwritten : (Value.int number).scalar? = none :=
    (numeral_eq_none_iff number).mpr not_has_numeral_double
  have entry : readEntry false "a" (.int number) = .error .overlong := by
    simp only [readEntry, items?, read_scalar_of_overlong _ _ (.int number) rfl unwritten]
    rfl
  have entries : readEntries false [(.text "a", .int number)] = .error .overlong := by
    rw [readEntries, entry]
    rfl
  refine ⟨rfl, ?_, .overlong, ?_, rfl⟩
  · apply IsFilterInput.fields
    have only : ∀ field ∈ Entries.fields [(.text "a", .int number)], field.2.isScalar = true := by
      intro field member
      cases List.mem_singleton.mp member
      rfl
    constructor
    case keyed => simp [Entries.IsKeyed]
    case nonempty => exact List.cons_ne_nil _ _
    case operands => exact fun field member => .scalar field.2 (only field member)
    case nested => exact fun _ => only
  · rw [read_map, readMap]
    change _ <$> (readEntries false _ >>= _) = _
    rw [entries]
    rfl

end Filter

end GroqQuery
