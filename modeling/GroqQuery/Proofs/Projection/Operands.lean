import GroqQuery.Proofs.Projection.Spellings
import GroqQuery.Proofs.Scalars

/-!
Operands of projections. Reading a projection writes an operand for every place of the input where
one is taken, in order: behind a key and in a reference, in maps, pairs and lists at any depth.
-/

namespace GroqQuery

namespace Projection

mutual

/-- The operands of an item from left to right. A field has none. -/
def operands : Projection → List String
  | .field _ => []
  | .entry _ value => [value]
  | .entryOf _ value => value.operands
  | .reference _ value _ => [value]
  | .referenceOf _ items _ => operandsOfEach items
  | .object _ items _ => operandsOfEach items
termination_by structural item => item

def operandsOfEach : List Projection → List String
  | [] => []
  | item :: rest => item.operands ++ operandsOfEach rest
termination_by structural items => items

end

theorem operands_of_each_eq_flat_map (items : List Projection) :
    operandsOfEach items = items.flatMap operands := by
  induction items with
  | nil => rfl
  | cons item rest induction => rw [operandsOfEach, induction, List.flatMap_cons]

theorem operands_reference_of (key : String) (items : List Projection) (follow : Bool) :
    (referenceOf key items follow).operands = items.flatMap operands := by
  rw [operands, operands_of_each_eq_flat_map]

theorem operands_object (name joiner : String) (items : List Projection) :
    (object name items joiner).operands = items.flatMap operands := by
  rw [operands, operands_of_each_eq_flat_map]

theorem operands_behind_key (key : String) (items : List Projection) :
    (items.map (.entryOf key)).flatMap operands = items.flatMap operands := by
  rw [List.flatMap_map]
  rfl

end Projection

namespace Value

mutual

def itemOperands : Value → List Operand
  | .projection item => item.operands.map .finished
  | .map entries => namedOperands entries
  | .list parts => pairOperands parts
  | .tuple parts => pairOperands parts
  | _ => []
termination_by structural value => value

/-- A list behind a key is a pair again, or in a reference the items of another document. -/
def pairOperands : List Value → List Operand
  | [_, value] => if value.isScalar then [.given value] else value.itemOperands
  | [_, value, _] =>
      match value with
      | .list items => itemsOperands items
      | .tuple items => itemsOperands items
      | value => [.given value]
  | _ => []
termination_by structural parts => parts

def itemsOperands : List Value → List Operand
  | [] => []
  | item :: rest => item.itemOperands ++ itemsOperands rest
termination_by structural items => items

def namedOperands : List (Value × Value) → List Operand
  | [] => []
  | (key, value) :: rest =>
      match key with
      | .text _ =>
          let operands := match value with
            | .list items => itemsOperands items
            | .tuple items => itemsOperands items
            | item => item.itemOperands
          operands ++ namedOperands rest
      | _ => namedOperands rest
termination_by structural entries => entries

end

def projectionOperands (input : Value) : List Operand :=
  input.contents.flatMap itemOperands

theorem items_operands_eq_flat_map (items : List Value) :
    itemsOperands items = items.flatMap itemOperands := by
  induction items with
  | nil => rfl
  | cons item rest induction => rw [itemsOperands, induction, List.flatMap_cons]

theorem named_operands_text (name : String) (value : Value) (rest : Entries) :
    namedOperands ((.text name, value) :: rest) =
      value.projectionOperands ++ namedOperands rest := by
  rw [projectionOperands, contents]
  cases value with
  | list items => rw [items?, Option.getD_some, ← items_operands_eq_flat_map, namedOperands]
  | tuple items => rw [items?, Option.getD_some, ← items_operands_eq_flat_map, namedOperands]
  | _ => simp [items?, namedOperands]

theorem named_operands_eq_flat_map (entries : Entries) :
    namedOperands entries = entries.fields.flatMap fun field => field.2.projectionOperands := by
  induction entries with
  | nil => rfl
  | cons entry rest induction =>
      obtain ⟨key, value⟩ := entry
      cases key with
      | text name =>
          rw [named_operands_text, induction, Entries.fields_text, List.flatMap_cons]
      | _ => exact induction

theorem item_operands_sequence (value : Value) (parts : List Value)
    (sequence : value.items? = some parts) : value.itemOperands = pairOperands parts := by
  obtain rfl | rfl := (value.items_eq_some parts).mp sequence
  · rfl
  · rfl

end Value

namespace Projection

open Value

/-- A value whose operands are all written, be it read as an item or as the contents of a name. -/
structure WritesOperands (value : Value) : Prop where
  item : ∀ items, readItem value = .ok items →
    List.Forall₂ Operand.Appears value.itemOperands (items.flatMap operands)
  contents : ∀ items, readContents value = .ok items →
    List.Forall₂ Operand.Appears value.projectionOperands (items.flatMap operands)

theorem writes_operands_single (value : Value) (single : value.items? = none)
    (item : ∀ items, readItem value = .ok items →
      List.Forall₂ Operand.Appears value.itemOperands (items.flatMap operands)) :
    WritesOperands value := by
  constructor
  case item => exact item
  case contents =>
    intro items read
    rw [read_contents_single value single] at read
    rw [projectionOperands, contents, single]
    simpa using item items read

theorem read_item_sequence_operands (value : Value) (parts : List Value)
    (sequence : value.items? = some parts) (each : ∀ part ∈ parts, WritesOperands part)
    (items : List Projection) (read : readItem value = .ok items) :
    List.Forall₂ Operand.Appears value.itemOperands (items.flatMap operands) := by
  have accepted := (is_decided value).item.mp ⟨items, read⟩
  have pair := (is_item_sequence Value.isWritable value parts sequence).mp accepted
  rw [item_operands_sequence value parts sequence]
  cases pair with
  | scalar key behind scalar =>
      obtain ⟨text, written⟩ := Option.isSome_iff_exists.mp scalar
      rw [read_item_entry value key text behind sequence written] at read
      cases read
      rw [pairOperands, if_pos (behind.is_scalar_of_is_writable scalar)]
      exact .cons (.given written) .nil
  | finished key item =>
      rw [read_item_behind_key value key _ sequence (.inr ⟨item, rfl⟩), map_eq_ok] at read
      obtain ⟨inner, read, rfl⟩ := read
      rw [operands_behind_key]
      exact (each (.projection item) (by simp)).item inner read
  | nested key behind parts isList pair =>
      have unscalar : behind.isScalar = false := by
        obtain rfl | rfl := (behind.items_eq_some parts).mp isList
        · rfl
        · rfl
      rw [read_item_behind_key value key _ sequence (.inl (by simp [isList])), map_eq_ok] at read
      obtain ⟨inner, read, rfl⟩ := read
      rw [operands_behind_key, pairOperands, if_neg (by simp [unscalar])]
      exact (each behind (by simp)).item inner read
  | reference key behind flag scalar =>
      obtain ⟨text, written⟩ := Option.isSome_iff_exists.mp scalar
      rw [read_item_flagged value key text behind flag sequence written] at read
      cases read
      have operand : pairOperands [.text key, behind, flag] = [.given behind] := by
        cases behind with
        | list items => cases scalar
        | tuple items => cases scalar
        | _ => rfl
      rw [operand]
      exact .cons (.given written) .nil
  | referenceOf key behind flag members isList _ =>
      rw [read_item_reference value key behind flag members sequence isList, map_eq_ok] at read
      obtain ⟨inner, read, rfl⟩ := read
      have operand : pairOperands [.text key, behind, flag] = behind.projectionOperands := by
        rw [projectionOperands, contents, isList, Option.getD_some, ← items_operands_eq_flat_map]
        obtain rfl | rfl := (behind.items_eq_some members).mp isList
        · rfl
        · rfl
      rw [operand, List.flatMap_singleton, operands_reference_of]
      apply (each behind (by simp)).contents
      rw [read_contents_sequence behind members isList, read]

theorem read_item_map_operands (entries : Entries)
    (each : ∀ entry ∈ entries, WritesOperands entry.2)
    (items : List Projection) (read : readItem (.map entries) = .ok items) :
    List.Forall₂ Operand.Appears (Value.map entries).itemOperands (items.flatMap operands) := by
  have accepted := (is_decided (.map entries)).item.mp ⟨items, read⟩
  obtain ⟨_, keyed, nonempty, _⟩ := (is_item_map Value.isWritable entries).mp accepted
  rw [read_item_map_of_keyed entries keyed nonempty, bind_eq_ok] at read
  obtain ⟨joiner, _, read⟩ := read
  rw [itemOperands, named_operands_eq_flat_map]
  apply flat_map_of_map_m read
  intro field member object read
  obtain ⟨inner, found, rfl⟩ := (map_eq_ok _ _ _).mp read
  rw [operands_object]
  exact (each _ ((entries.mem_fields field).mp member)).contents inner found

theorem writes_operands (value : Value) : WritesOperands value := by
  induction value using Value.tree_induction with
  | sequence value items sequence each =>
      constructor
      case item => exact read_item_sequence_operands value items sequence each
      case contents =>
        intro found read
        rw [read_contents_sequence value items sequence, read_items_eq_map_m, map_eq_ok] at read
        obtain ⟨lists, read, rfl⟩ := read
        rw [projectionOperands, contents, sequence, Option.getD_some, ← List.flatMap_id,
          List.flatMap_assoc]
        apply flat_map_of_map_m read
        intro item member
        exact (each item member).item
  | map entries each =>
      exact writes_operands_single _ rfl (read_item_map_operands entries fun entry member =>
        (each entry member).2)
  | other value single noMap =>
      apply writes_operands_single value single
      intro items read
      cases value with
      | projection item =>
          cases read
          rw [List.flatMap_singleton]
          exact Operand.appear_finished item.operands
      | text name =>
          cases read
          exact .nil
      | list items => cases single
      | tuple items => cases single
      | map entries => exact absurd rfl (noMap entries)
      | _ => cases read

theorem read_operands (input : Value) (items : List Projection)
    (accepted : Projection.read input = .ok items) :
    List.Forall₂ Operand.Appears input.projectionOperands (items.flatMap operands) := by
  rw [read_eq_ok, ← read_contents_eq_read_items] at accepted
  exact (writes_operands input).contents items accepted

end Projection

end GroqQuery
