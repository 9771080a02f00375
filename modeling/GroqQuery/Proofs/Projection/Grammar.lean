import GroqQuery.Proofs.Induction
import GroqQuery.Proofs.Projection.Reading

/-!
The grammar of projection input, said without the readers, and that the readers accept exactly what
it allows. A list is read in three ways: as the items of a document, as a pair where an item is
expected, and as the only content of a name in a map. Which values count as scalars is left open in
the grammar; the readers take those that have a text.
-/

namespace GroqQuery

namespace Entries

/-- Whether the joiner of a map is a text, or a value that counts as none. -/
def IsJoinedByText (entries : Entries) : Prop :=
  ∀ joiner, entries.marked? .join = some joiner → joiner.holds = true →
    ∃ content, joiner = .text content

end Entries

namespace Value

mutual

/-- What may stand in a list of projection items. -/
inductive IsItem (counts : Value → Bool) : Value → Prop
  | finished (item : Projection) : IsItem counts (.projection item)
  | field (name : String) : IsItem counts (.text name)
  | objects (entries : Entries) (joined : entries.IsJoinedByText) (keyed : entries.IsKeyed)
      (nonempty : entries.fields ≠ [])
      (contents : ∀ field ∈ entries.fields, IsContents counts field.2) :
      IsItem counts (.map entries)
  | pair (value : Value) (parts : List Value) (sequence : value.items? = some parts)
      (pair : IsPair counts parts) : IsItem counts value

/-- The parts of a pair. A third part may be anything; it turns the list behind the key from a pair
into the items of another document. -/
inductive IsPair (counts : Value → Bool) : List Value → Prop
  | scalar (key : String) (value : Value) (scalar : counts value = true) :
      IsPair counts [.text key, value]
  | finished (key : String) (item : Projection) : IsPair counts [.text key, .projection item]
  | nested (key : String) (value : Value) (parts : List Value)
      (sequence : value.items? = some parts) (pair : IsPair counts parts) :
      IsPair counts [.text key, value]
  | reference (key : String) (value flag : Value) (scalar : counts value = true) :
      IsPair counts [.text key, value, flag]
  | referenceOf (key : String) (value flag : Value) (items : List Value)
      (sequence : value.items? = some items) (each : ∀ item ∈ items, IsItem counts item) :
      IsPair counts [.text key, value, flag]

/-- What may be given as a projection, and what may stand under a name of a map. -/
inductive IsContents (counts : Value → Bool) : Value → Prop
  | several (value : Value) (items : List Value) (sequence : value.items? = some items)
      (each : ∀ item ∈ items, IsItem counts item) : IsContents counts value
  | single (value : Value) (single : value.items? = none) (item : IsItem counts value) :
      IsContents counts value

end

theorem is_item_map (counts : Value → Bool) (entries : Entries) :
    (Value.map entries).IsItem counts ↔
      entries.IsJoinedByText ∧ entries.IsKeyed ∧ entries.fields ≠ [] ∧
        ∀ field ∈ entries.fields, field.2.IsContents counts := by
  constructor
  · intro item
    cases item with
    | objects _ joined keyed nonempty contents => exact ⟨joined, keyed, nonempty, contents⟩
    | pair _ parts sequence => cases sequence
  · rintro ⟨joined, keyed, nonempty, contents⟩
    exact .objects entries joined keyed nonempty contents

theorem is_item_sequence (counts : Value → Bool) (value : Value) (parts : List Value)
    (sequence : value.items? = some parts) : value.IsItem counts ↔ IsPair counts parts := by
  constructor
  · intro item
    cases item with
    | pair _ others same pair =>
        rw [sequence] at same
        cases same
        exact pair
    | _ => cases sequence
  · exact .pair value parts sequence

theorem is_pair_two (counts : Value → Bool) (key : String) (value : Value) :
    IsPair counts [.text key, value] ↔ counts value = true ∨ (∃ item, value = .projection item) ∨
      ∃ parts, value.items? = some parts ∧ value.IsItem counts := by
  constructor
  · intro pair
    cases pair with
    | scalar _ _ scalar => exact .inl scalar
    | finished _ item => exact .inr (.inl ⟨item, rfl⟩)
    | nested _ _ parts sequence pair =>
        exact .inr (.inr ⟨parts, sequence, .pair value parts sequence pair⟩)
  · rintro (scalar | ⟨item, rfl⟩ | ⟨parts, sequence, item⟩)
    · exact .scalar key value scalar
    · exact .finished key item
    · have pair := (is_item_sequence counts value parts sequence).mp item
      exact .nested key value parts sequence pair

theorem is_contents_sequence (counts : Value → Bool) (value : Value) (items : List Value)
    (sequence : value.items? = some items) :
    value.IsContents counts ↔ ∀ item ∈ items, item.IsItem counts := by
  constructor
  · intro contents
    cases contents with
    | several _ others same each =>
        rw [sequence] at same
        cases same
        exact each
    | single _ single =>
        rw [sequence] at single
        cases single
  · exact .several value items sequence

theorem is_contents_single (counts : Value → Bool) (value : Value) (single : value.items? = none) :
    value.IsContents counts ↔ value.IsItem counts := by
  constructor
  · intro contents
    cases contents with
    | several _ items sequence =>
        rw [single] at sequence
        cases sequence
    | single _ _ item => exact item
  · exact .single value single

theorem is_pair_three (counts : Value → Bool) (key : String) (value flag : Value) :
    IsPair counts [.text key, value, flag] ↔
      counts value = true ∨ ∃ items, value.items? = some items ∧ value.IsContents counts := by
  constructor
  · intro pair
    cases pair with
    | reference _ _ _ scalar => exact .inl scalar
    | referenceOf _ _ _ items sequence each =>
        exact .inr ⟨items, sequence, .several value items sequence each⟩
  · rintro (scalar | ⟨items, sequence, contents⟩)
    · exact .reference key value flag scalar
    · exact .referenceOf key value flag items sequence
        ((is_contents_sequence counts value items sequence).mp contents)

end Value

namespace Projection

open Value

theorem accepted_joiner_of (entries : Entries) :
    Accepted (joinerOf entries) ↔ entries.IsJoinedByText := by
  rw [joinerOf, Entries.IsJoinedByText]
  cases entries.marked? .join with
  | none => simp
  | some joiner =>
      cases holding : joiner.holds with
      | false => simp [Option.filter, holding]
      | true => cases joiner <;> simp_all [Option.filter]

theorem accepted_read_items (items : List Value) :
    Accepted (readItems items) ↔ ∀ item ∈ items, Accepted (readItem item) := by
  rw [read_items_eq_map_m, accepted_map, accepted_map_m]

theorem accepted_read_objects (joiner : String) (entries : Entries) :
    Accepted (readObjects joiner entries) ↔
      entries.IsKeyed ∧ ∀ field ∈ entries.fields, Accepted (readContents field.2) := by
  have fields : Accepted (entries.fields.mapM (readObject joiner)) ↔
      ∀ field ∈ entries.fields, Accepted (readContents field.2) := by
    simp only [accepted_map_m, readObject, accepted_map]
  rw [← fields]
  simp only [Accepted, (reads_fields_read_objects joiner).eq_ok, exists_and_left]

theorem read_objects_eq_nil (joiner : String) (entries : Entries) (objects : List Projection)
    (read : readObjects joiner entries = .ok objects) : objects = [] ↔ entries.fields = [] := by
  obtain ⟨keyed, fields⟩ := ((reads_fields_read_objects joiner).eq_ok entries objects).mp read
  have length := ((map_m_eq_ok _ _ _).mp fields).length_eq
  rw [← List.length_eq_zero_iff, ← List.length_eq_zero_iff, length]

theorem accepted_read_item_map (entries : Entries) :
    Accepted (readItem (.map entries)) ↔ entries.IsJoinedByText ∧ entries.IsKeyed ∧
      entries.fields ≠ [] ∧ ∀ field ∈ entries.fields, Accepted (readContents field.2) := by
  rw [readItem, accepted_bind, ← accepted_joiner_of]
  constructor
  · intro accepted
    obtain ⟨joiner, joined, objects⟩ := accepted
    obtain ⟨objects, read, some⟩ := (accepted_bind _ _).mp objects
    obtain ⟨keyed, each⟩ := (accepted_read_objects joiner entries).mp ⟨objects, read⟩
    have nonempty : entries.fields ≠ [] := by
      intro empty
      rw [(read_objects_eq_nil joiner entries objects read).mpr empty] at some
      exact not_accepted_error _ some
    exact ⟨⟨joiner, joined⟩, keyed, nonempty, each⟩
  · intro given
    obtain ⟨⟨joiner, joined⟩, keyed, nonempty, each⟩ := given
    obtain ⟨objects, read⟩ := (accepted_read_objects joiner entries).mpr ⟨keyed, each⟩
    refine ⟨joiner, joined, (accepted_bind _ _).mpr ⟨objects, read, ?_⟩⟩
    cases objects with
    | nil => exact absurd ((read_objects_eq_nil joiner entries [] read).mp rfl) nonempty
    | cons first others => exact accepted_ok _

theorem read_item_sequence (value : Value) (parts : List Value)
    (sequence : value.items? = some parts) :
    readItem value = (fun item => [item]) <$> readPair parts := by
  obtain rfl | rfl := (value.items_eq_some parts).mp sequence
  · rfl
  · rfl

theorem accepted_read_pair_two (key : String) (value : Value) :
    Accepted (readPair [.text key, value]) ↔
      value.isWritable = true ∨ (∃ item, value = .projection item) ∨
        ∃ parts, value.items? = some parts ∧ Accepted (readItem value) := by
  cases value with
  | list parts => simp [readPair, readItem, isWritable, scalar?, items?]
  | tuple parts => simp [readPair, readItem, isWritable, scalar?, items?]
  | projection item => simp [readPair]
  | _ => simp [readPair, items?]

theorem accepted_read_pair_three (key : String) (value flag : Value) :
    Accepted (readPair [.text key, value, flag]) ↔
      value.isWritable = true ∨
        ∃ items, value.items? = some items ∧ Accepted (readContents value) := by
  cases value with
  | list items => simp [readPair, readContents, isWritable, scalar?, items?]
  | tuple items => simp [readPair, readContents, isWritable, scalar?, items?]
  | _ => simp [readPair, items?]

/-- A value on which the readers and the grammar agree, as an item and as the contents of a name. -/
structure IsDecided (value : Value) : Prop where
  item : Accepted (readItem value) ↔ value.IsItem isWritable
  contents : Accepted (readContents value) ↔ value.IsContents isWritable

theorem accepted_read_pair (parts : List Value) (decided : ∀ part ∈ parts, IsDecided part) :
    Accepted (readPair parts) ↔ IsPair isWritable parts := by
  by_cases two : ∃ key value, parts = [.text key, value]
  · obtain ⟨key, value, rfl⟩ := two
    have behind := decided value (by simp)
    rw [accepted_read_pair_two, is_pair_two, behind.item]
  · by_cases three : ∃ key value flag, parts = [.text key, value, flag]
    · obtain ⟨key, value, flag, rfl⟩ := three
      have behind := decided value (by simp)
      rw [accepted_read_pair_three, is_pair_three, behind.contents]
    · have refused : ¬Accepted (readPair parts) := by
        simp_all [readPair]
      have outside : ¬IsPair isWritable parts := by
        intro pair
        cases pair <;> simp at two three
      exact iff_of_false refused outside

theorem is_decided (value : Value) : IsDecided value := by
  -- A third part in a pair reads the list before it as contents, so both readings are carried
  -- along.
  induction value using Value.tree_induction with
  | sequence value items sequence each =>
      constructor
      case item =>
        rw [read_item_sequence value items sequence, accepted_map, accepted_read_pair items each,
          is_item_sequence isWritable value items sequence]
      case contents =>
        rw [read_contents_sequence value items sequence, accepted_read_items,
          is_contents_sequence isWritable value items sequence]
        exact forall₂_congr fun item member => (each item member).item
  | map entries each =>
      have behind : ∀ field ∈ entries.fields,
          (Accepted (readContents field.2) ↔ field.2.IsContents isWritable) := by
        intro field member
        have belongs := (entries.mem_fields field).mp member
        exact (each _ belongs).2.contents
      have item : Accepted (readItem (.map entries)) ↔ (Value.map entries).IsItem isWritable := by
        rw [accepted_read_item_map, is_item_map, forall₂_congr behind]
      constructor
      case item => exact item
      case contents => rw [read_contents_single _ rfl, item, is_contents_single isWritable _ rfl]
  | other value single noMap =>
      have item : Accepted (readItem value) ↔ value.IsItem isWritable := by
        cases value with
        | projection item => exact iff_of_true ⟨[item], rfl⟩ (.finished item)
        | text name => exact iff_of_true ⟨[.field name], rfl⟩ (.field name)
        | map entries => exact absurd rfl (noMap entries)
        | list items => cases single
        | tuple items => cases single
        | _ =>
            refine iff_of_false (not_accepted_error _) ?_
            intro item
            cases item with
            | pair _ parts sequence => cases sequence
      constructor
      case item => exact item
      case contents =>
        rw [read_contents_single value single, item, is_contents_single isWritable value single]

theorem accepted_read (value : Value) :
    Accepted (Projection.read value) ↔ value.IsContents isWritable := by
  rw [← (is_decided value).contents]
  cases value with
  | list items => exact Iff.rfl
  | tuple items => exact Iff.rfl
  | text name => exact Iff.rfl
  | map entries => exact Iff.rfl
  | projection item => exact Iff.rfl
  | _ => exact iff_of_false (not_accepted_error _) (not_accepted_error _)

end Projection

end GroqQuery
