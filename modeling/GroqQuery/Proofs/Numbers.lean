import GroqQuery.Proofs.Decimal.Whole
import GroqQuery.Proofs.Induction
import GroqQuery.Proofs.Reading
import GroqQuery.Value.Display

/-!
The whole numbers in a value. A value can be shown, and a scalar can be written, just where all of
its numbers have numerals.
-/

namespace GroqQuery

namespace Value

mutual

/-- The whole numbers in a value, at any depth. Finished clauses and items have none left. -/
def numbers : Value → List Int
  | .int number => [number]
  | .list items => numbersOfEach items
  | .tuple items => numbersOfEach items
  | .map entries => numbersOfEntries entries
  | _ => []
termination_by structural value => value

def numbersOfEach : List Value → List Int
  | [] => []
  | value :: rest => value.numbers ++ numbersOfEach rest
termination_by structural values => values

def numbersOfEntries : List (Value × Value) → List Int
  | [] => []
  | (key, value) :: rest => key.numbers ++ value.numbers ++ numbersOfEntries rest
termination_by structural entries => entries

end

/-- Whether every number in a value has a numeral. -/
def IsShort (value : Value) : Prop := ∀ number ∈ value.numbers, HasNumeral number

theorem is_short_sequence (value : Value) (items : List Value)
    (sequence : value.items? = some items) : value.IsShort ↔ ∀ item ∈ items, item.IsShort := by
  have each : (∀ number ∈ numbersOfEach items, HasNumeral number) ↔
      ∀ item ∈ items, item.IsShort := by
    clear sequence
    induction items with
    | nil => simp [numbersOfEach]
    | cons item items induction =>
        rw [numbersOfEach, List.forall_mem_append, induction, List.forall_mem_cons, IsShort]
  rw [← each]
  obtain rfl | rfl := (value.items_eq_some items).mp sequence
  · rfl
  · rfl

theorem is_short_map (entries : Entries) :
    (Value.map entries).IsShort ↔ ∀ entry ∈ entries, entry.1.IsShort ∧ entry.2.IsShort := by
  change (∀ number ∈ numbersOfEntries entries, HasNumeral number) ↔ _
  induction entries with
  | nil => simp [numbersOfEntries]
  | cons entry entries induction =>
      rw [numbersOfEntries, List.forall_mem_append, List.forall_mem_append, induction,
        List.forall_mem_cons, IsShort, IsShort]

theorem is_short_of_marked (entries : Entries) (marker : Marker) (value : Value)
    (given : entries.marked? marker = some value) (short : (Value.map entries).IsShort) :
    value.IsShort := by
  obtain ⟨entry, member, found⟩ := List.exists_of_findSome?_eq_some given
  obtain ⟨key, other⟩ := entry
  cases key with
  | marker mark =>
      by_cases same : mark = marker
      · simp only [same, if_pos, Option.some.injEq] at found
        exact found ▸ ((is_short_map entries).mp short _ member).2
      · simp [same] at found
  | _ => simp at found

theorem is_printable_sequence (value : Value) (items : List Value)
    (sequence : value.items? = some items) :
    value.isPrintable = true ↔ ∀ item ∈ items, item.isPrintable = true := by
  have each : (inspectEach? items).isSome = true ↔ ∀ item ∈ items, item.isPrintable = true := by
    clear sequence
    induction items with
    | nil => simp [inspectEach?]
    | cons item items induction =>
        rw [List.forall_mem_cons, ← induction, inspectEach?, isPrintable]
        cases item.inspect? <;> cases inspectEach? items <;> simp
  rw [← each]
  obtain rfl | rfl := (value.items_eq_some items).mp sequence
  · rw [isPrintable, inspect?]
    cases inspectEach? items <;> simp
  · rw [isPrintable, inspect?]
    cases inspectEach? items <;> simp

theorem is_printable_map (entries : Entries) :
    (Value.map entries).isPrintable = true ↔
      ∀ entry ∈ entries, entry.1.isPrintable = true ∧ entry.2.isPrintable = true := by
  have each : (inspectEntries? entries).isSome = true ↔
      ∀ entry ∈ entries, entry.1.isPrintable = true ∧ entry.2.isPrintable = true := by
    induction entries with
    | nil => simp [inspectEntries?]
    | cons entry entries induction =>
        rw [List.forall_mem_cons, ← induction, inspectEntries?, isPrintable, isPrintable]
        cases entry.1.inspect? <;> cases entry.2.inspect? <;> cases inspectEntries? entries <;> simp
  rw [← each, isPrintable, inspect?]
  cases inspectEntries? entries <;> simp

theorem is_some_numeral_iff (number : Int) :
    (numeral? number).isSome = true ↔ HasNumeral number := by
  rw [Option.isSome_iff_ne_none, ne_eq, numeral_eq_none_iff, not_not]

theorem is_printable_iff (value : Value) : value.isPrintable = true ↔ value.IsShort := by
  induction value using tree_induction with
  | sequence value items sequence each =>
      rw [is_printable_sequence value items sequence, is_short_sequence value items sequence]
      exact forall₂_congr each
  | map entries each =>
      rw [is_printable_map, is_short_map]
      exact forall₂_congr fun entry member =>
        and_congr (each entry member).1 (each entry member).2
  | other value single noMap =>
      cases value with
      | int number =>
          rw [isPrintable, inspect?, is_some_numeral_iff]
          simp [IsShort, numbers]
      | list items => cases single
      | tuple items => cases single
      | map entries => exact absurd rfl (noMap entries)
      | _ => simp [isPrintable, inspect?, IsShort, numbers]

theorem is_some_display_iff (value : Value) : value.display?.isSome = true ↔ value.IsShort := by
  rw [← value.is_printable_iff]
  cases value <;> simp [display?, isPrintable, inspect?]

theorem is_writable_of_is_short (value : Value) (short : value.IsShort) :
    value.isWritable = value.isScalar := by
  cases value with
  | int number =>
      have numeral := (is_some_numeral_iff number).mpr (short number List.mem_cons_self)
      rw [isWritable, scalar?, numeral]
      rfl
  | bool flag => cases flag <;> rfl
  | _ => rfl

theorem read_scalar_ne_overlong {Fault : Type} (refusal overlong : Fault)
    (apart : refusal ≠ overlong) (value : Value) (short : value.IsShort) :
    value.readScalar refusal overlong ≠ .error overlong := by
  have writable := value.is_writable_of_is_short short
  rw [readScalar, ← writable, isWritable]
  cases value.scalar? with
  | none => simpa using apart
  | some text => simp

end Value

end GroqQuery
