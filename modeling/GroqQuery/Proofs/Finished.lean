import GroqQuery.Proofs.Filter.Regrouping
import GroqQuery.Proofs.Projection.Rewording
import GroqQuery.Proofs.Query.Reachable

/-!
Finished clauses and items in the place of the values they are read from. Wherever a value adds
something to an input, what it adds may be given instead of it, and what an input is read as may be
given instead of the input.
-/

namespace GroqQuery

namespace Filter

open Value

/-- A member of a group, given as the clause that it is read as in a group. -/
def IsFinishedMember (item other : Value) : Prop :=
  ∃ clause, readMembers [item] = .ok [.clause clause] ∧ other = .filter clause

theorem read_item_finished_member (item other : Value) (finished : IsFinishedMember item other)
    (member : Member) : readItem item = .ok member ↔ readItem other = .ok member := by
  obtain ⟨clause, read, rfl⟩ := finished
  obtain ⟨found, given, same⟩ := (read_members_singleton_eq_ok item _).mp read
  rw [given, ← List.singleton_inj.mp same]
  rfl

theorem read_top_item_ne_nil (item : Value) (clauses : List Filter)
    (read : readTopItem item = .ok clauses) : clauses ≠ [] := by
  cases item with
  | map entries =>
      obtain ⟨⟨first, others⟩, _, rfl⟩ := (map_eq_ok _ _ _).mp read
      exact List.cons_ne_nil first others
  | _ =>
      obtain ⟨clause, _, rfl⟩ := (map_eq_ok _ _ _).mp read
      exact List.cons_ne_nil clause []

theorem read_finished_clauses (input changed item : Value) (before after : List Value)
    (clauses : List Filter) (sequence : input.items? = some (before ++ item :: after))
    (several : ∀ key operand, before ++ item :: after ≠ [.text key, operand])
    (reads : readClauses [item] = .ok clauses)
    (changedSequence : changed.items? = some (before ++ clauses.map .filter ++ after))
    (filters : List Filter) : read input = .ok filters ↔ read changed = .ok filters := by
  have nonempty : clauses ≠ [] := by
    rw [read_clauses_singleton] at reads
    exact read_top_item_ne_nil item clauses reads
  have severalToo := several_of_exchanged before after (clauses.map .filter) item several
    (by simpa using nonempty) (by simp)
  rw [read_of_several input _ sequence several,
    read_of_several changed _ changedSequence severalToo]
  apply read_clauses_exchanged
  intro found
  rw [reads, read_clauses_finished]

end Filter

namespace Projection

/-- An item, given as the items that it is read as. -/
def AreFinishedItems (item : Value) (others : List Value) : Prop :=
  ∃ items, readItems [item] = .ok items ∧ others = items.map .projection

theorem read_item_finished_items (item : Value) (others : List Value)
    (finished : AreFinishedItems item others) : readItem item = readItems others := by
  obtain ⟨items, read, rfl⟩ := finished
  rw [← read_items_singleton, read, read_items_finished]

end Projection

/-- Values and what they are read as are interchangeable. In a list of filters that is no field with
its operand, a clause at the top may be replaced by the clauses that it is read as there, and a
clause in a group, at any depth, by the one that it is read as in a group. In a projection, an item
of a list, the single item under a name or the list behind a key may be replaced, at any depth, by
the items that it is read as. Each time both inputs are read as the same, or neither is accepted. So
to read what an input has been read as changes nothing. -/
theorem finished_values_interchangeable :
    (∀ (input changed item : Value) (before after : List Value) (clauses : List Filter),
      input.items? = some (before ++ item :: after) →
      (∀ key operand, before ++ item :: after ≠ [.text key, operand]) →
      Filter.readClauses [item] = .ok clauses →
      changed.items? = some (before ++ clauses.map .filter ++ after) →
      ∀ filters, Filter.read input = .ok filters ↔ Filter.read changed = .ok filters) ∧
    (∀ (input changed group other : Value) (before after : List Value),
      input.items? = some (before ++ group :: after) →
      changed.items? = some (before ++ other :: after) →
      (∀ key operand, before ++ group :: after ≠ [.text key, operand]) →
      group.items?.isSome = true → other.items?.isSome = true →
      Value.Regrouped Filter.IsFinishedMember [group] [other] →
      ∀ filters, Filter.read input = .ok filters ↔ Filter.read changed = .ok filters) ∧
    (∀ input changed : Value,
      Value.Reworded Projection.AreFinishedItems input.contents changed.contents →
      ∀ items, Projection.read input = .ok items ↔ Projection.read changed = .ok items) ∧
    (∀ input : Value, (do
      let filters ← Filter.read input
      Filter.read (.tuple (filters.map .filter))) = Filter.read input) ∧
    ∀ input : Value, (do
      let items ← Projection.read input
      Projection.read (.tuple (items.map .projection))) = Projection.read input := by
  refine ⟨Filter.read_finished_clauses, Filter.read_regrouped Filter.read_item_finished_member,
    Projection.read_reworded Projection.read_item_finished_items, ?_, ?_⟩
  · intro input
    cases Filter.read input with
    | error fault => rfl
    | ok filters => exact Filter.read_list_finished filters
  · intro input
    cases Projection.read input with
    | error fault => rfl
    | ok items => exact Projection.read_items_finished items

/-- A map of two fields before another clause, replaced by two clauses at the top and by a group of
them in a negated group. In projections, a map of two names behind a field in the list of a
reference, the list behind a key in such a list, and a single text under a name. -/
theorem finished_values_interchangeable_nested :
    let range : Value := .map [(.text "a", .list [.text ">", .int 1]), (.text "b", .null)]
    let lower : Filter := .compare "a" ">" "1" false
    let upper : Filter := .equals "b" "null"
    let conjunction : Value := .filter (.group lower [upper] .both false)
    let other : Value := .filter (.raw "c")
    let negation : Value := .map [(.marker .negate, .bool true)]
    let grouped : Value → Value := fun member => .list [other, .list [.tuple [member], negation]]
    let names : Value := .map [(.text "x", .text "y"), (.text "z", .list [])]
    let objects : List Projection := [.object "x" [.field "y"] ":", .object "z" [] ":"]
    let referenced : List Value → Value := fun items =>
      .map [(.text "post", .list [.list [.text "source", .tuple items, .marker .follow]])]
    let behind : Value → Value := fun value => .list [.text "key", value]
    (∀ filters, Filter.read (.tuple [range, other]) = .ok filters ↔
      Filter.read (.list [.filter lower, .filter upper, other]) = .ok filters) ∧
    (∀ filters, Filter.read (grouped range) = .ok filters ↔
      Filter.read (grouped conjunction) = .ok filters) ∧
    (∀ items, Projection.read (referenced [.text "w", names]) = .ok items ↔
      Projection.read (referenced (.text "w" :: objects.map .projection)) = .ok items) ∧
    (∀ items, Projection.read (referenced [behind (.tuple [.text "k", .int 1])]) = .ok items ↔
      Projection.read (referenced [behind (.projection (.entry "k" "1"))]) = .ok items) ∧
    ∀ items, Projection.read (.map [(.text "x", .text "y")]) = .ok items ↔
      Projection.read (.map [(.text "x", .projection (.field "y"))]) = .ok items := by
  intro range lower upper conjunction other negation grouped names objects referenced behind
  obtain ⟨atTop, inGroup, inItems, _, _⟩ := finished_values_interchangeable
  have inReference : ∀ items others,
      Value.Reworded Projection.AreFinishedItems items others →
        Value.Reworded Projection.AreFinishedItems (referenced items).contents
          (referenced others).contents := by
    intro items others inner
    apply Value.Reworded.named [] "post" _ _ []
    exact .referenced _ _ "source" _ _ (.marker .follow) items others rfl rfl rfl rfl inner
  refine ⟨?_, ?_, ?_, ?_, ?_⟩
  · exact atTop (.tuple [range, other]) (.list [.filter lower, .filter upper, other]) range []
      [other] [lower, upper] rfl (by simp [range]) rfl rfl
  · apply inGroup (grouped range) (grouped conjunction) (.list [.tuple [range], negation])
      (.list [.tuple [conjunction], negation]) [other] [] rfl rfl (by simp [other]) rfl rfl
    apply Value.Regrouped.inside _ _ _ _ rfl rfl
    apply Value.Regrouped.among [] [.tuple [range]] [.tuple [conjunction]] [negation]
    exact .inside _ _ _ _ rfl rfl (.exchanged range conjunction ⟨_, rfl, rfl⟩)
  · apply inItems
    apply inReference
    exact .among [.text "w"] [names] (objects.map .projection) []
      (.exchanged names _ ⟨objects, rfl, rfl⟩)
  · apply inItems
    apply inReference
    apply Value.Reworded.behindKey _ _ "key" _ _ rfl rfl rfl (.inr ⟨_, rfl⟩)
    exact .exchanged _ _ ⟨[.entry "k" "1"], rfl, rfl⟩
  · apply inItems
    exact .named [] "x" _ _ [] (.exchanged _ _ ⟨[.field "y"], rfl, rfl⟩)

end GroqQuery
