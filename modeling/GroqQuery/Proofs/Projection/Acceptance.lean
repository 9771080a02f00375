import GroqQuery.Proofs.Numbers
import GroqQuery.Proofs.Projection.Rewording

/-!
Which values are accepted as projections. Where all numbers have numerals, these are the values of
the grammar in which every scalar counts, and all others are refused for what they are. Where a
number has none, it counts for nothing in the grammar, and the failure may be about the number
alone.
-/

namespace GroqQuery

namespace Projection

open Value

/-- A value of which the grammar says the same whether scalars have to be written or not. -/
structure IsCountedAlike (value : Value) : Prop where
  item : value.IsItem isScalar ↔ value.IsItem isWritable
  contents : value.IsContents isScalar ↔ value.IsContents isWritable

theorem is_pair_of_is_short (parts : List Value) (short : ∀ part ∈ parts, part.IsShort)
    (each : ∀ part ∈ parts, IsCountedAlike part) :
    IsPair isScalar parts ↔ IsPair isWritable parts := by
  by_cases two : ∃ key value, parts = [.text key, value]
  · obtain ⟨key, value, rfl⟩ := two
    rw [is_pair_two, is_pair_two, value.is_writable_of_is_short (short value (by simp)),
      (each value (by simp)).item]
  · by_cases three : ∃ key value flag, parts = [.text key, value, flag]
    · obtain ⟨key, value, flag, rfl⟩ := three
      rw [is_pair_three, is_pair_three, value.is_writable_of_is_short (short value (by simp)),
        (each value (by simp)).contents]
    · have outside : ∀ counts : Value → Bool, ¬IsPair counts parts := by
        intro counts pair
        cases pair <;> simp at two three
      exact iff_of_false (outside isScalar) (outside isWritable)

theorem is_counted_alike (value : Value) (short : value.IsShort) : IsCountedAlike value := by
  induction value using Value.tree_induction with
  | sequence value items sequence each =>
      have shortEach := (is_short_sequence value items sequence).mp short
      have alike : ∀ item ∈ items, IsCountedAlike item := fun item member =>
        each item member (shortEach item member)
      constructor
      case item =>
        rw [is_item_sequence isScalar value items sequence,
          is_item_sequence isWritable value items sequence]
        exact is_pair_of_is_short items shortEach alike
      case contents =>
        rw [is_contents_sequence isScalar value items sequence,
          is_contents_sequence isWritable value items sequence]
        exact forall₂_congr fun item member => (alike item member).item
  | map entries each =>
      have behind : ∀ field ∈ entries.fields,
          (field.2.IsContents isScalar ↔ field.2.IsContents isWritable) := by
        intro field member
        have belongs := (entries.mem_fields field).mp member
        exact ((each _ belongs).2 ((is_short_map entries).mp short _ belongs).2).contents
      have item : (Value.map entries).IsItem isScalar ↔ (Value.map entries).IsItem isWritable := by
        rw [is_item_map, is_item_map, forall₂_congr behind]
      constructor
      case item => exact item
      case contents => rw [is_contents_single _ _ rfl, is_contents_single _ _ rfl, item]
  | other value single noMap =>
      have item : value.IsItem isScalar ↔ value.IsItem isWritable := by
        cases value with
        | projection item => exact iff_of_true (.finished item) (.finished item)
        | text name => exact iff_of_true (.field name) (.field name)
        | map entries => exact absurd rfl (noMap entries)
        | list items => cases single
        | tuple items => cases single
        | _ =>
            constructor <;> intro item <;> cases item with
            | pair _ parts sequence => cases sequence
      constructor
      case item => exact item
      case contents => rw [is_contents_single _ _ single, is_contents_single _ _ single, item]

theorem joiner_of_ne_overlong (entries : Entries) : joinerOf entries ≠ .error .overlong := by
  rw [joinerOf]
  cases (entries.marked? .join).filter Value.holds with
  | none => simp
  | some joiner => cases joiner <;> simp

/-- A value whose reading does not fail for the sake of a number, be it as an item or as the
contents of a name. -/
structure IsUnspoiled (value : Value) : Prop where
  item : readItem value ≠ .error .overlong
  contents : readContents value ≠ .error .overlong

theorem read_items_ne_overlong (items : List Value) (each : ∀ item ∈ items, IsUnspoiled item) :
    readItems items ≠ .error .overlong := by
  rw [read_items_eq_map_m]
  apply map_ne_error
  apply map_m_ne_error
  exact fun item member => (each item member).item

theorem read_item_two_ne_overlong (value : Value) (key : String) (behind : Value)
    (sequence : value.items? = some [.text key, behind]) (short : behind.IsShort)
    (unspoiled : IsUnspoiled behind) : readItem value ≠ .error .overlong := by
  by_cases stands : behind.items?.isSome = true ∨ ∃ finished, behind = .projection finished
  · rw [read_item_behind_key value key behind sequence stands]
    exact map_ne_error _ _ _ unspoiled.item
  · have written := behind.read_scalar_ne_overlong (.unsupportedValue key)
      ProjectionFault.overlong (by simp) short
    rw [read_item_sequence value _ sequence]
    apply map_ne_error
    cases behind with
    | list items => simp [items?] at stands
    | tuple items => simp [items?] at stands
    | projection finished => simp at stands
    | _ => exact bind_ne_error _ _ _ written (by simp)

theorem read_item_three_ne_overlong (value : Value) (key : String) (behind flag : Value)
    (sequence : value.items? = some [.text key, behind, flag]) (short : behind.IsShort)
    (unspoiled : IsUnspoiled behind) : readItem value ≠ .error .overlong := by
  cases inner : behind.items? with
  | some items =>
      have contents := unspoiled.contents
      rw [read_contents_sequence behind items inner] at contents
      rw [read_item_reference value key behind flag items sequence inner]
      exact map_ne_error _ _ _ contents
  | none =>
      have written := behind.read_scalar_ne_overlong (.unsupportedValue key)
        ProjectionFault.overlong (by simp) short
      rw [read_item_sequence value _ sequence]
      apply map_ne_error
      cases behind with
      | list items => cases inner
      | tuple items => cases inner
      | _ => exact bind_ne_error _ _ _ written (by simp)

theorem read_item_sequence_ne_overlong (value : Value) (parts : List Value)
    (sequence : value.items? = some parts) (short : ∀ part ∈ parts, part.IsShort)
    (each : ∀ part ∈ parts, IsUnspoiled part) : readItem value ≠ .error .overlong := by
  by_cases two : ∃ key behind, parts = [.text key, behind]
  · obtain ⟨key, behind, rfl⟩ := two
    exact read_item_two_ne_overlong value key behind sequence (short behind (by simp))
      (each behind (by simp))
  · by_cases three : ∃ key behind flag, parts = [.text key, behind, flag]
    · obtain ⟨key, behind, flag, rfl⟩ := three
      exact read_item_three_ne_overlong value key behind flag sequence (short behind (by simp))
        (each behind (by simp))
    · rw [read_item_sequence value parts sequence]
      apply map_ne_error
      unfold readPair
      split
      next key behind => exact absurd ⟨key, behind, rfl⟩ two
      next key behind flag => exact absurd ⟨key, behind, flag, rfl⟩ three
      next => simp

theorem read_objects_ne_overlong (joiner : String) (entries : Entries)
    (each : ∀ entry ∈ entries, IsUnspoiled entry.2) :
    readObjects joiner entries ≠ .error .overlong := by
  induction entries with
  | nil => simp [readObjects]
  | cons entry entries induction =>
      obtain ⟨first, others⟩ := List.forall_mem_cons.mp each
      have later := induction others
      obtain ⟨key, value⟩ := entry
      cases key with
      | marker mark => exact later
      | text name =>
          rw [(reads_fields_read_objects joiner).text]
          apply bind_ne_error _ _ _ (map_ne_error _ _ _ first.contents)
          intro object _
          apply bind_ne_error _ _ _ later
          simp
      | _ => simp [readObjects]

theorem is_unspoiled (value : Value) (short : value.IsShort) : IsUnspoiled value := by
  induction value using Value.tree_induction with
  | sequence value items sequence each =>
      have shortEach := (is_short_sequence value items sequence).mp short
      have unspoiled : ∀ item ∈ items, IsUnspoiled item := fun item member =>
        each item member (shortEach item member)
      constructor
      case item =>
        exact read_item_sequence_ne_overlong value items sequence shortEach unspoiled
      case contents =>
        rw [read_contents_sequence value items sequence]
        exact read_items_ne_overlong items unspoiled
  | map entries each =>
      have item : readItem (.map entries) ≠ .error .overlong := by
        rw [readItem]
        apply bind_ne_error _ _ _ (joiner_of_ne_overlong entries)
        intro joiner _
        apply bind_ne_error
        · apply read_objects_ne_overlong
          intro entry member
          exact (each entry member).2 ((is_short_map entries).mp short entry member).2
        · intro objects _
          cases objects <;> simp
      constructor
      case item => exact item
      case contents => exact item
  | other value single noMap =>
      have item : readItem value ≠ .error .overlong := by
        cases value with
        | map entries => exact absurd rfl (noMap entries)
        | list items => cases single
        | tuple items => cases single
        | _ => simp [readItem]
      constructor
      case item => exact item
      case contents =>
        rw [read_contents_single value single]
        exact item

/-- Only a number without a numeral makes a reading fail for the number's sake. -/
theorem read_ne_overlong (value : Value) (short : value.IsShort) :
    Projection.read value ≠ .error .overlong := by
  have contents := (is_unspoiled value short).contents
  cases value with
  | text name => simp [Projection.read, readItem]
  | projection item => simp [Projection.read]
  | map entries => exact contents
  | list items => exact contents
  | tuple items => exact contents
  | _ => simp [Projection.read]

theorem class_name_of_ne_overlong (fault : ProjectionFault) (other : fault ≠ .overlong) :
    fault.className = "TypeError" := by
  cases fault with
  | overlong => exact absurd rfl other
  | _ => rfl

/-- A value is accepted as a projection exactly when the grammar has it, however deep its lists and
maps are, where the scalars that count are those that can be written. If all of its numbers can,
these are all scalars, and whatever is not in the grammar is refused as being of the wrong type. -/
theorem read_accepts_contents_exactly (value : Value) :
    ((∃ items, Projection.read value = .ok items) ↔ value.IsContents isWritable) ∧
      (value.IsShort →
        ((∃ items, Projection.read value = .ok items) ↔ value.IsContents isScalar) ∧
        (¬value.IsContents isScalar →
          ∃ fault, Projection.read value = .error fault ∧ fault.className = "TypeError")) := by
  refine ⟨accepted_read value, ?_⟩
  intro short
  have exactly : Accepted (Projection.read value) ↔ value.IsContents isScalar := by
    rw [(is_counted_alike value short).contents]
    exact accepted_read value
  refine ⟨exactly, ?_⟩
  intro outside
  rw [← exactly, not_accepted_iff] at outside
  obtain ⟨fault, refused⟩ := outside
  refine ⟨fault, refused, class_name_of_ne_overlong fault ?_⟩
  intro same
  exact read_ne_overlong value short (same ▸ refused)

/-- A pair in a pair and a map among the items of another document. With a third part, a finished
item may stand in a list behind the key, but not in its place. -/
theorem read_accepts_contents_exactly_nested :
    let accepted : Value :=
      .list [.list [.text "a", .tuple [.text "b", .projection (.field "c")]],
        .tuple [.text "d", .list [.projection (.field "e"),
          .map [(.marker .join, .int 0), (.text "f", .list [.text "g", .text "h"])]],
            .marker .follow]]
    let refused : Value := .list [.list [.text "a", .projection (.field "b"), .marker .follow]]
    accepted.IsShort ∧ accepted.IsContents isScalar ∧
      refused.IsShort ∧ ¬refused.IsContents isScalar ∧
      ∃ fault, Projection.read refused = .error fault ∧ fault.className = "TypeError" := by
  intro accepted refused
  have shortAccepted : accepted.IsShort := by
    change ∀ number ∈ [0], HasNumeral number
    rw [List.forall_mem_singleton]
    exact has_numeral_digit 0 (by decide)
  have shortRefused : refused.IsShort := by
    intro number member
    cases member
  obtain ⟨_, ofAccepted⟩ := read_accepts_contents_exactly accepted
  obtain ⟨_, ofRefused⟩ := read_accepts_contents_exactly refused
  have outside : ¬refused.IsContents isScalar := by
    intro contents
    obtain ⟨items, read⟩ := (ofRefused shortRefused).1.mpr contents
    cases read
  exact ⟨shortAccepted, (ofAccepted shortAccepted).1.mp ⟨_, rfl⟩, shortRefused, outside,
    (ofRefused shortRefused).2 outside⟩

/-- A number of too many digits is a scalar, and a pair with it is in the grammar; it is refused,
and not for being of the wrong type. -/
theorem read_accepts_contents_exactly_not_if_overlong :
    let number : Int := (9 * 10 ^ 4299 : Nat) + (9 * 10 ^ 4299 : Nat)
    let value : Value := .list [.list [.text "k", .int number]]
    value.IsContents isScalar ∧
      ∃ fault, Projection.read value = .error fault ∧ fault.className = "ValueError" := by
  intro number value
  have unwritten : (Value.int number).scalar? = none :=
    (numeral_eq_none_iff number).mpr not_has_numeral_double
  have pair : readPair [.text "k", .int number] = .error .overlong := by
    simp only [readPair, read_scalar_of_overlong _ _ (.int number) rfl unwritten]
    rfl
  refine ⟨?_, .overlong, ?_, rfl⟩
  · rw [is_contents_sequence isScalar value _ rfl, List.forall_mem_singleton,
      is_item_sequence isScalar _ _ rfl, is_pair_two]
    exact .inl rfl
  · change readItems [.list [.text "k", .int number]] = _
    rw [read_items_singleton, read_item_sequence _ _ rfl, pair]
    rfl

end Projection

end GroqQuery
