import GroqQuery.Proofs.Filter.InputMeaning
import GroqQuery.Proofs.Filter.Regrouping

/-!
Where the maps that steer a group stand among its clauses. They may stand anywhere: the clauses of
the group come in their own order, its joiner is the first one that holds, and a single negation
that holds negates it.
-/

namespace GroqQuery

/-- A list put together from two others, each of which keeps its own order. -/
inductive Interleaved {Item : Type} : List Item → List Item → List Item → Prop
  | empty : Interleaved [] [] []
  | left {lefts rights items : List Item} (item : Item) (rest : Interleaved lefts rights items) :
      Interleaved (item :: lefts) rights (item :: items)
  | right {lefts rights items : List Item} (item : Item) (rest : Interleaved lefts rights items) :
      Interleaved lefts (item :: rights) (item :: items)

namespace Interleaved

variable {Item Content : Type} {lefts rights items : List Item}

theorem alone (items : List Item) : Interleaved items [] items := by
  induction items with
  | nil => exact .empty
  | cons item items induction => exact .left item induction

theorem mem_iff (interleaved : Interleaved lefts rights items) (item : Item) :
    item ∈ items ↔ item ∈ lefts ∨ item ∈ rights := by
  induction interleaved with
  | empty => simp
  | left first rest induction => simp [induction, or_assoc]
  | right first rest induction => simp [induction, or_left_comm]

theorem filter_map_right (interleaved : Interleaved lefts rights items)
    (take : Item → Option Content) (passed : ∀ item ∈ lefts, take item = none) :
    items.filterMap take = rights.filterMap take := by
  induction interleaved with
  | empty => rfl
  | left first rest induction =>
      rw [List.forall_mem_cons] at passed
      rw [List.filterMap_cons_none passed.1, induction passed.2]
  | right first rest induction => rw [List.filterMap_cons, List.filterMap_cons, induction passed]

theorem filter_left (interleaved : Interleaved lefts rights items) (keep : Item → Bool)
    (kept : ∀ item ∈ lefts, keep item = true) (passed : ∀ item ∈ rights, keep item = false) :
    items.filter keep = lefts := by
  induction interleaved with
  | empty => rfl
  | left first rest induction =>
      rw [List.forall_mem_cons] at kept
      rw [List.filter_cons_of_pos kept.1, induction kept.2 passed]
  | right first rest induction =>
      rw [List.forall_mem_cons] at passed
      rw [List.filter_cons_of_neg (by simp [passed.1]), induction kept passed.2]

end Interleaved

namespace Value

structure AreSteered (clauses markings : List Value) : Prop where
  clauses : ∀ item ∈ clauses, item.isMarking = false
  markings : ∀ item ∈ markings, item.isMarking = true

/-- Lists of the same clauses in the same order, among which the same maps steer the group, in the
same order but in other places. -/
def AreRearranged (group other : Value) : Prop :=
  ∃ clauses markings items others, AreSteered clauses markings ∧ group.items? = some items ∧
    other.items? = some others ∧ Interleaved clauses markings items ∧
    Interleaved clauses markings others

variable {clauses markings items : List Value}

theorem AreSteered.filter (steered : AreSteered clauses markings)
    (interleaved : Interleaved clauses markings items) :
    (items.filter fun item => !item.isMarking) = clauses :=
  interleaved.filter_left _ (by simpa using steered.clauses) (by simpa using steered.markings)

theorem AreSteered.filter_map (steered : AreSteered clauses markings)
    (interleaved : Interleaved clauses markings items) :
    items.filterMap marking? = markings.filterMap marking? := by
  apply interleaved.filter_map_right
  intro item member
  simpa [isMarking] using steered.clauses item member

end Value

namespace Filter

open Value

variable {clauses markings items : List Value}

theorem accepted_interleaved (steered : AreSteered clauses markings)
    (interleaved : Interleaved clauses markings items) :
    (∀ item ∈ items, Accepted (readItem item)) ↔ ∀ item ∈ clauses, Accepted (readItem item) := by
  constructor
  · exact fun all item member => all item ((interleaved.mem_iff item).mpr (.inl member))
  · intro all item member
    rcases (interleaved.mem_iff item).mp member with clause | marking
    · exact all item clause
    · exact (accepted_read_item item).mpr (.inl (steered.markings item marking))

theorem read_member_interleaved (steered : AreSteered clauses markings)
    (interleaved : Interleaved clauses markings items) (group : Value)
    (sequence : group.items? = some items) (clause : Filter) :
    readMember group = .ok clause ↔
      (∀ item ∈ clauses, Accepted (readItem item)) ∧
        ∃ joiner first others, joinerOf (markings.filterMap marking?) = .ok joiner ∧
          clauses.mapM readMember = .ok (first :: others) ∧
          clause = .group first others joiner (isNegated markings) := by
  rw [read_member_sequence group items sequence, read_group_eq_ok, accepted_interleaved steered
    interleaved, steered.filter interleaved, steered.filter_map interleaved]
  rfl

theorem read_member_clauses (plain : ∀ item ∈ clauses, item.isMarking = false) (clause : Filter) :
    readMember (.list clauses) = .ok clause ↔
      (∀ item ∈ clauses, Accepted (readItem item)) ∧
        ∃ first others, clauses.mapM readMember = .ok (first :: others) ∧
          clause = .group first others .either false := by
  have steered : AreSteered clauses [] := ⟨plain, by simp⟩
  rw [read_member_interleaved steered (.alone clauses) (.list clauses) rfl]
  simp [joinerOf, namedJoiner?, isNegated]

theorem read_item_rearranged (group other : Value) (rearranged : AreRearranged group other)
    (member : Member) : readItem group = .ok member ↔ readItem other = .ok member := by
  obtain ⟨clauses, markings, items, others, steered, sequence, otherSequence, placed, placedToo⟩ :=
    rearranged
  rw [read_item_list group (Option.isSome_of_eq_some sequence),
    read_item_list other (Option.isSome_of_eq_some otherSequence)]
  simp only [map_eq_ok, read_member_interleaved steered placed group sequence,
    read_member_interleaved steered placedToo other otherSequence]

/-- Where the maps that steer a group stand makes no difference. Its clauses are what they are read
as without those maps, in their order; its joiner is the first one that holds among the maps, or
else the one for alternatives; it is negated exactly if a negation holds in one of them. Without a
clause, or with a first joiner that is not known, there is no group. Hence an input whose maps are
moved about inside a group, at any depth, is read as the same filters, or refused as before. -/
theorem marker_positions_irrelevant :
    (∀ (clauses markings items : List Value) (group : Value), AreSteered clauses markings →
      Interleaved clauses markings items → group.items? = some items →
      (∀ clause, readMember group = .ok clause ↔
        ∃ first others joiner,
          readMember (.list clauses) = .ok (.group first others .either false) ∧
          ((joiners markings).head? = none ∧ joiner = .either ∨
            (joiners markings).head? = some (.text joiner.text)) ∧
          clause = .group first others joiner (isNegated markings)) ∧
      (clauses = [] → ∃ fault, readMember group = .error fault) ∧
      ∀ joiner, (joiners markings).head? = some joiner → joiner ≠ .text "&&" →
        joiner ≠ .text "||" → ∃ fault, readMember group = .error fault) ∧
    ∀ (input changed group other : Value) (before after : List Value),
      input.items? = some (before ++ group :: after) →
      changed.items? = some (before ++ other :: after) →
      (∀ key operand, before ++ group :: after ≠ [.text key, operand]) →
      group.items?.isSome = true → other.items?.isSome = true →
      Regrouped AreRearranged [group] [other] →
      ∀ filters, read input = .ok filters ↔ read changed = .ok filters := by
  refine ⟨?_, read_regrouped read_item_rearranged⟩
  intro clauses markings items group steered interleaved sequence
  have reads := read_member_interleaved steered interleaved group sequence
  refine ⟨?_, ?_, ?_⟩
  · intro clause
    rw [reads]
    simp only [read_member_clauses steered.clauses, joiner_of_eq_ok, named_joiner_markings]
    constructor
    · rintro ⟨all, joiner, first, others, joined, read, rfl⟩
      exact ⟨first, others, joiner, ⟨all, first, others, read, rfl⟩, joined, rfl⟩
    · rintro ⟨first, others, joiner, ⟨all, head, tail, read, same⟩, joined, rfl⟩
      cases same
      exact ⟨all, joiner, first, others, joined, read, rfl⟩
  · rintro rfl
    rw [← not_accepted_iff]
    rintro ⟨clause, read⟩
    obtain ⟨_, _, _, _, _, none, _⟩ := (reads clause).mp read
    cases none
  · intro joiner named notBoth notEither
    rw [← not_accepted_iff]
    rintro ⟨clause, read⟩
    obtain ⟨_, known, _, _, joined, _, _⟩ := (reads clause).mp read
    rw [joiner_of_eq_ok, named_joiner_markings, named] at joined
    rcases joined with ⟨none, _⟩ | same
    · cases none
    · cases same
      cases known with
      | both => exact notBoth rfl
      | either => exact notEither rfl

/-- Two clauses among four maps, of which one names a joiner that does not hold and one a negation
that does not hold, alone and in a group of a group; no clauses at all; and a joiner that is not
known in front of one that is. -/
theorem marker_positions_irrelevant_among_four :
    let first : Value := .map [(.text "a", .int 1)]
    let second : Value := .tuple [.map [(.text "b", .int 2)]]
    let unset : Value := .map [(.marker .join, .int 0)]
    let negated : Value := .map [(.marker .negate, .bool true)]
    let both : Value := .map [(.marker .join, .text "&&"), (.marker .negate, .bool false)]
    let either : Value := .map [(.marker .join, .text "||")]
    let unknown : Value := .map [(.marker .join, .text "xor")]
    let group : Value := .list [first, unset, negated, second, both, either]
    let other : Value := .tuple [unset, first, second, negated, both, either]
    let nested : Value → Value := fun value => .list [first, .tuple [.list [value], second]]
    readMember group =
        .ok (.group (.equals "a" "1") [.group (.equals "b" "2") [] .either false] .both true) ∧
      (∀ filters, read (nested group) = .ok filters ↔ read (nested other) = .ok filters) ∧
      (∃ fault, readMember (.list [negated, both]) = .error fault) ∧
      ∃ fault, readMember (.list [unknown, first, both]) = .error fault := by
  intro first second unset negated both either unknown group other nested
  obtain ⟨told, moved⟩ := marker_positions_irrelevant
  have steered : AreSteered [first, second] [unset, negated, both, either] := by
    constructor <;> simp only [List.forall_mem_cons] <;> decide
  have placed : Interleaved [first, second] [unset, negated, both, either]
      [first, unset, negated, second, both, either] :=
    .left _ (.right _ (.right _ (.left _ (.right _ (.right _ .empty)))))
  have placedToo : Interleaved [first, second] [unset, negated, both, either]
      [unset, first, second, negated, both, either] :=
    .right _ (.left _ (.left _ (.right _ (.right _ (.right _ .empty)))))
  have rearranged : AreRearranged group other :=
    ⟨_, _, _, _, steered, rfl, rfl, placed, placedToo⟩
  refine ⟨?_, ?_, ?_, ?_⟩
  · exact ((told _ _ _ group steered placed rfl).1 _).mpr ⟨_, _, .both, rfl, .inr rfl, rfl⟩
  · apply moved (nested group) (nested other) (.tuple [.list [group], second])
      (.tuple [.list [other], second]) [first] [] rfl rfl (by simp [first]) rfl rfl
    apply Regrouped.inside _ _ _ _ rfl rfl
    apply Regrouped.among [] [.list [group]] [.list [other]] [second]
    exact .inside _ _ _ _ rfl rfl (.exchanged group other rearranged)
  · refine (told [] [negated, both] _ _ ⟨by simp, ?_⟩
      (.right _ (.right _ .empty)) rfl).2.1 rfl
    simp only [List.forall_mem_cons]
    decide
  · refine (told [first] [unknown, both] _ _ ?_ (.right _ (.left _ (.right _ .empty))) rfl).2.2
      (.text "xor") rfl (by simp) (by simp)
    constructor <;> simp only [List.forall_mem_cons] <;> decide

end Filter

end GroqQuery
