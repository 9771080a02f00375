/-!
Looking things up by their names, where no two of them share one.
-/

namespace GroqQuery

variable {Item : Type} {all : List Item} {name : Item → String}

def named? (all : List Item) (name : Item → String) (wanted : String) : Option Item :=
  all.find? fun item => name item = wanted

theorem named_eq_some_iff (complete : ∀ item, item ∈ all)
    (injective : ∀ left right, name left = name right → left = right) (wanted : String)
    (item : Item) : named? all name wanted = some item ↔ wanted = name item := by
  constructor
  · intro found
    have spelled : name item = wanted := by simpa using List.find?_some found
    exact spelled.symm
  · intro spelled
    have present : ∃ other ∈ all, decide (name other = wanted) = true :=
      ⟨item, complete item, by simp [spelled]⟩
    obtain ⟨other, found⟩ := Option.isSome_iff_exists.mp (List.find?_isSome.mpr present)
    have same : name other = wanted := by simpa using List.find?_some found
    rw [named?, found, injective other item (same.trans spelled)]

end GroqQuery
