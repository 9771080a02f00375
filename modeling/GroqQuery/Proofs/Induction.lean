import GroqQuery.Filter
import GroqQuery.Projection
import GroqQuery.Value

/-!
Induction over filters, over projection items and over values. These trees hold lists of themselves,
so the recursors that come with them carry further motives for the lists; here such a motive is
always that every member of the list has the property.
-/

namespace GroqQuery

namespace Filter

@[elab_as_elim]
theorem tree_induction {motive : Filter → Prop}
    (equals : ∀ key value, motive (.equals key value))
    (compare : ∀ key operator value negated, motive (.compare key operator value negated))
    (group : ∀ first others joiner negated,
      (∀ member ∈ first :: others, motive member) →
        motive (.group first others joiner negated))
    (raw : ∀ text, motive (.raw text))
    (call : ∀ name argument, motive (.call name argument))
    (filter : Filter) : motive filter := by
  apply @Filter.rec motive (fun filters => ∀ member ∈ filters, motive member) equals compare
  case group =>
    intro first others joiner negated firstHolds othersHold
    exact group first others joiner negated
      (List.forall_mem_cons.mpr ⟨firstHolds, othersHold⟩)
  case raw => exact raw
  case call => exact call
  case nil => intro member absent; cases absent
  case cons =>
    intro first others firstHolds othersHold
    exact List.forall_mem_cons.mpr ⟨firstHolds, othersHold⟩

end Filter

namespace Projection

@[elab_as_elim]
theorem tree_induction {motive : Projection → Prop}
    (field : ∀ name, motive (.field name))
    (entry : ∀ key value, motive (.entry key value))
    (entryOf : ∀ key value, motive value → motive (.entryOf key value))
    (reference : ∀ key value follow, motive (.reference key value follow))
    (referenceOf : ∀ key items follow, (∀ item ∈ items, motive item) →
      motive (.referenceOf key items follow))
    (object : ∀ name items joiner, (∀ item ∈ items, motive item) →
      motive (.object name items joiner))
    (item : Projection) : motive item := by
  apply @Projection.rec motive (fun items => ∀ item ∈ items, motive item) field entry entryOf
    reference referenceOf object
  case nil => intro item absent; cases absent
  case cons =>
    intro first others firstHolds othersHold
    exact List.forall_mem_cons.mpr ⟨firstHolds, othersHold⟩

end Projection

namespace Value

/-- Lists and tuples are one case, as they are for every reader. -/
@[elab_as_elim]
theorem tree_induction {motive : Value → Prop}
    (sequence : ∀ value items, value.items? = some items → (∀ item ∈ items, motive item) →
      motive value)
    (map : ∀ entries : Entries, (∀ entry ∈ entries, motive entry.1 ∧ motive entry.2) →
      motive (.map entries))
    (other : ∀ value : Value, value.items? = none → (∀ entries, value ≠ .map entries) →
      motive value)
    (value : Value) : motive value := by
  apply @Value.rec motive (fun items => ∀ item ∈ items, motive item)
    (fun entries => ∀ entry ∈ entries, motive entry.1 ∧ motive entry.2)
    (fun entry => motive entry.1 ∧ motive entry.2)
  case list => intro items each; exact sequence (.list items) items rfl each
  case tuple => intro items each; exact sequence (.tuple items) items rfl each
  case map => exact map
  case nil => intro item absent; cases absent
  case nil => intro entry absent; cases absent
  case cons =>
    intro first others firstHolds othersHold
    exact List.forall_mem_cons.mpr ⟨firstHolds, othersHold⟩
  case cons =>
    intro first others firstHolds othersHold
    exact List.forall_mem_cons.mpr ⟨firstHolds, othersHold⟩
  case mk => intro key value keyHolds valueHolds; exact ⟨keyHolds, valueHolds⟩
  all_goals
    intros
    exact other _ rfl nofun

end Value

end GroqQuery
