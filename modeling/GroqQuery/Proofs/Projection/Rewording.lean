import GroqQuery.Proofs.Projection.Grammar

/-!
Projection inputs that differ in one place. Wherever an item may stand, other items may stand for
it: in a list of items, under a name of a map, behind a key and in the list of a reference, at any
depth. If those others are read as the item is, so is the whole input.
-/

namespace GroqQuery

namespace Value

/-- What a value holds where items are expected: the items of a list or a tuple, or itself. -/
def contents (value : Value) : List Value := value.items?.getD [value]

/-- Lists of projection items that are alike except in one place, where an item has been exchanged
for some others. The place may lie in an item, at any depth. -/
inductive Reworded (exchange : Value → List Value → Prop) : List Value → List Value → Prop
  | exchanged (item : Value) (others : List Value) (allowed : exchange item others) :
      Reworded exchange [item] others
  | among (before items others after : List Value) (inner : Reworded exchange items others) :
      Reworded exchange (before ++ items ++ after) (before ++ others ++ after)
  | named (before : Entries) (name : String) (value other : Value) (after : Entries)
      (inner : Reworded exchange value.contents other.contents) :
      Reworded exchange [.map (before ++ (.text name, value) :: after)]
        [.map (before ++ (.text name, other) :: after)]
  | behindKey (item changed : Value) (key : String) (value other : Value)
      (parts : item.items? = some [.text key, value])
      (changedParts : changed.items? = some [.text key, other])
      (isList : value.items?.isSome = true)
      (stands : other.items?.isSome = true ∨ ∃ finished, other = .projection finished)
      (inner : Reworded exchange [value] [other]) : Reworded exchange [item] [changed]
  | referenced (item changed : Value) (key : String) (value other flag : Value)
      (items others : List Value) (parts : item.items? = some [.text key, value, flag])
      (changedParts : changed.items? = some [.text key, other, flag])
      (sequence : value.items? = some items) (otherSequence : other.items? = some others)
      (inner : Reworded exchange items others) : Reworded exchange [item] [changed]

end Value

theorem Entries.marked_field (before after : Entries) (name : String) (value : Value)
    (marker : Marker) :
    Entries.marked? (before ++ (.text name, value) :: after) marker =
      Entries.marked? (before ++ after) marker := by
  simp [Entries.marked?]

namespace Projection

open Value

theorem read_items_append (items others : List Value) :
    readItems (items ++ others) = (do
      let first ← readItems items
      let second ← readItems others
      .ok (first ++ second)) := by
  rw [read_items_eq_map_m, read_items_eq_map_m, read_items_eq_map_m, flatten_map_m_append]

theorem read_items_singleton (item : Value) : readItems [item] = readItem item := by
  rw [read_items_eq_map_m, flatten_map_m_singleton]

theorem read_contents_eq_read_items (value : Value) :
    readContents value = readItems value.contents := by
  rw [readContents, contents]
  cases value.items? with
  | none => exact (read_items_singleton value).symm
  | some items => rfl

/-- At the top a value is read like the contents of a name, except for what is said of a value that
is no item at all. -/
theorem read_eq_ok (value : Value) (items : List Projection) :
    Projection.read value = .ok items ↔ readItems value.contents = .ok items := by
  rw [← read_contents_eq_read_items]
  cases value <;> simp [Projection.read, readContents, items?, readItem]

theorem read_item_behind_key (item : Value) (key : String) (value : Value)
    (parts : item.items? = some [.text key, value])
    (stands : value.items?.isSome = true ∨ ∃ finished, value = .projection finished) :
    readItem item = List.map (.entryOf key) <$> readItem value := by
  rw [read_item_sequence item _ parts]
  cases value with
  | projection finished => rfl
  | list inner =>
      simp only [readPair, readItem]
      cases readPair inner <;> rfl
  | tuple inner =>
      simp only [readPair, readItem]
      cases readPair inner <;> rfl
  | _ => simp [items?] at stands

theorem read_item_reference (item : Value) (key : String) (value flag : Value) (items : List Value)
    (parts : item.items? = some [.text key, value, flag]) (sequence : value.items? = some items) :
    readItem item =
      (fun items => [.referenceOf key items (isFollow flag)]) <$> readItems items := by
  rw [read_item_sequence item _ parts]
  obtain rfl | rfl := (value.items_eq_some items).mp sequence
  · rw [readPair]
    cases readItems items <;> rfl
  · rw [readPair]
    cases readItems items <;> rfl

theorem read_objects_congr (joiner : String) (before after : Entries) (name : String)
    (value other : Value) (same : readContents value = readContents other) :
    readObjects joiner (before ++ (.text name, value) :: after) =
      readObjects joiner (before ++ (.text name, other) :: after) := by
  have reads := reads_fields_read_objects joiner
  induction before with
  | nil =>
      rw [List.nil_append, List.nil_append, reads.text, reads.text, readObject, readObject, same]
  | cons entry before induction =>
      obtain ⟨key, behind⟩ := entry
      rw [List.cons_append, List.cons_append]
      cases key with
      | marker mark => rw [reads.marker, reads.marker, induction]
      | text field => rw [reads.text, reads.text, induction]
      | _ => rfl

theorem read_item_map_congr (before after : Entries) (name : String) (value other : Value)
    (same : readContents value = readContents other) :
    readItem (.map (before ++ (.text name, value) :: after)) =
      readItem (.map (before ++ (.text name, other) :: after)) := by
  have joined : joinerOf (before ++ (.text name, value) :: after) =
      joinerOf (before ++ (.text name, other) :: after) := by
    simp only [joinerOf, Entries.marked_field]
  simp only [readItem, joined, read_objects_congr _ before after name value other same]

theorem read_items_reworded {exchange : Value → List Value → Prop}
    (sound : ∀ item others, exchange item others → readItem item = readItems others)
    {items others : List Value} (reworded : Reworded exchange items others) :
    readItems items = readItems others := by
  induction reworded with
  | exchanged item others allowed => rw [read_items_singleton, sound item others allowed]
  | among before items others after inner induction =>
      simp only [read_items_append, induction]
  | named before name value other after inner induction =>
      rw [read_items_singleton, read_items_singleton]
      apply read_item_map_congr
      rw [read_contents_eq_read_items, read_contents_eq_read_items, induction]
  | behindKey item changed key value other parts changedParts isList stands inner induction =>
      rw [read_items_singleton, read_items_singleton] at induction ⊢
      rw [read_item_behind_key item key value parts (.inl isList),
        read_item_behind_key changed key other changedParts stands, induction]
  | referenced item changed key value other flag items others parts changedParts sequence
      otherSequence inner induction =>
      rw [read_items_singleton, read_items_singleton,
        read_item_reference item key value flag items parts sequence,
        read_item_reference changed key other flag others changedParts otherSequence, induction]

theorem read_reworded {exchange : Value → List Value → Prop}
    (sound : ∀ item others, exchange item others → readItem item = readItems others)
    (input changed : Value) (reworded : Reworded exchange input.contents changed.contents)
    (items : List Projection) :
    Projection.read input = .ok items ↔ Projection.read changed = .ok items := by
  rw [read_eq_ok, read_eq_ok, read_items_reworded sound reworded]

end Projection

end GroqQuery
