import GroqQuery.Proofs.Filter.Spellings

/-!
Filter inputs that differ in one place inside a group. Wherever a member of a group is exchanged for
one that is read alike, at any depth, the group is read alike, and so is the list at the top that it
stands in.
-/

namespace GroqQuery

namespace Value

/-- Lists of members of groups that are alike except in one place, where a member has been exchanged
for another. The place may lie in a list among the members, at any depth. -/
inductive Regrouped (exchange : Value → Value → Prop) : List Value → List Value → Prop
  | exchanged (item other : Value) (allowed : exchange item other) :
      Regrouped exchange [item] [other]
  | among (before items others after : List Value) (inner : Regrouped exchange items others) :
      Regrouped exchange (before ++ items ++ after) (before ++ others ++ after)
  | inside (group changed : Value) (items others : List Value)
      (sequence : group.items? = some items) (changedSequence : changed.items? = some others)
      (inner : Regrouped exchange items others) : Regrouped exchange [group] [changed]

theorem several_of_exchanged (before after others : List Value) (item : Value)
    (several : ∀ key operand, before ++ item :: after ≠ [.text key, operand])
    (nonempty : others ≠ []) (textless : ∀ other ∈ others, ∀ content, other ≠ .text content)
    (key : String) (operand : Value) : before ++ others ++ after ≠ [.text key, operand] := by
  intro pair
  obtain ⟨other, rest, rfl⟩ := List.exists_cons_of_ne_nil nonempty
  cases before with
  | nil =>
      obtain ⟨named, _⟩ := List.cons_eq_cons.mp pair
      exact textless other List.mem_cons_self key named
  | cons first before =>
      -- Behind the name there is room for a single item, in whose place the exchanged one stood.
      rw [List.cons_append, List.cons_append] at pair
      obtain ⟨rfl, single⟩ := List.cons_eq_cons.mp pair
      have length := congrArg List.length single
      simp only [List.length_append, List.length_cons, List.length_nil] at length
      obtain rfl : before = [] := List.eq_nil_of_length_eq_zero (by omega)
      obtain rfl : after = [] := List.eq_nil_of_length_eq_zero (by omega)
      exact several key item rfl

end Value

namespace Filter

open Value

theorem read_members_append (items others : List Value) :
    readMembers (items ++ others) = (do
      let first ← readMembers items
      let second ← readMembers others
      pure (first ++ second)) := by
  simp only [read_members_eq_map_m, List.mapM_append]

theorem read_members_singleton_eq_ok (item : Value) (members : List Member) :
    readMembers [item] = .ok members ↔
      ∃ member, readItem item = .ok member ∧ members = [member] := by
  rw [read_members_eq_map_m, List.mapM_cons, List.mapM_nil, bind_eq_ok]
  simp [pure, Except.pure, bind, Except.bind, eq_comm]

theorem read_item_sequence (value : Value) (items : List Value)
    (sequence : value.items? = some items) :
    readItem value = Member.clause <$> (readMembers items >>= groupOf) := by
  rw [read_item_list value (Option.isSome_of_eq_some sequence),
    read_member_sequence value items sequence]

theorem read_members_regrouped {exchange : Value → Value → Prop}
    (sound : ∀ item other, exchange item other →
      ∀ member, readItem item = .ok member ↔ readItem other = .ok member)
    {items others : List Value} (regrouped : Regrouped exchange items others)
    (members : List Member) :
    readMembers items = .ok members ↔ readMembers others = .ok members := by
  induction regrouped generalizing members with
  | exchanged item other allowed =>
      simp only [read_members_singleton_eq_ok, sound item other allowed]
  | among before items others after inner induction =>
      simp only [read_members_append, bind_eq_ok, induction]
  | inside group changed items others sequence changedSequence inner induction =>
      simp only [read_members_singleton_eq_ok, read_item_sequence group items sequence,
        read_item_sequence changed others changedSequence, map_eq_ok, bind_eq_ok, induction]

theorem read_clauses_exchanged (before after others : List Value) (item : Value)
    (same : ∀ clauses, readClauses [item] = .ok clauses ↔ readClauses others = .ok clauses)
    (filters : List Filter) :
    readClauses (before ++ item :: after) = .ok filters ↔
      readClauses (before ++ others ++ after) = .ok filters := by
  rw [List.append_cons]
  simp only [read_clauses_append, bind_eq_ok, same]

theorem read_regrouped {exchange : Value → Value → Prop}
    (sound : ∀ item other, exchange item other →
      ∀ member, readItem item = .ok member ↔ readItem other = .ok member)
    (input changed group other : Value) (before after : List Value)
    (sequence : input.items? = some (before ++ group :: after))
    (changedSequence : changed.items? = some (before ++ other :: after))
    (several : ∀ key operand, before ++ group :: after ≠ [.text key, operand])
    (isList : group.items?.isSome = true) (otherIsList : other.items?.isSome = true)
    (regrouped : Regrouped exchange [group] [other]) (filters : List Filter) :
    read input = .ok filters ↔ read changed = .ok filters := by
  have same : ∀ clause, readMember group = .ok clause ↔ readMember other = .ok clause := by
    intro clause
    have members := read_members_regrouped sound regrouped [.clause clause]
    simpa [read_members_singleton_eq_ok, read_item_list group isList,
      read_item_list other otherIsList, map_eq_ok] using members
  have textless : ∀ item ∈ [other], ∀ content, item ≠ .text content := by
    intro item member content text
    rw [List.mem_singleton.mp member] at text
    rw [text] at otherIsList
    cases otherIsList
  have severalToo := several_of_exchanged before after [other] group several
    (List.cons_ne_nil other []) textless
  rw [List.append_cons] at changedSequence
  rw [read_of_several input _ sequence several,
    read_of_several changed _ changedSequence severalToo]
  apply read_clauses_exchanged
  intro clauses
  simp only [read_clauses_singleton, read_top_item_list group isList,
    read_top_item_list other otherIsList, map_eq_ok, same]

end Filter

end GroqQuery
