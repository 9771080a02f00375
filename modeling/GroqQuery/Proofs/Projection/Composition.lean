import GroqQuery.Proofs.Projection.Rewording
import GroqQuery.Proofs.Query.Inputs
import GroqQuery.Proofs.Query.Run

/-!
Projection inputs put together from others. Lists are read one after the other, a single item is
read like the list of it, and a map is read like the maps of its single names, wherever it stands.
-/

namespace GroqQuery

/-- A map with a single one of the names of another map, under the same joiner. -/
structure Entries.IsNamedPart (entries : Entries) (field : String × Value) (part : Entries) :
    Prop where
  keyed : part.IsKeyed
  fields : part.fields = [field]
  joined : part.marked? .join = entries.marked? .join

namespace Projection

open Value

theorem read_sequence (value : Value) (items : List Value) (sequence : value.items? = some items) :
    read value = readItems items := by
  obtain rfl | rfl := (value.items_eq_some items).mp sequence
  · rfl
  · rfl

theorem read_item_map_of_keyed (entries : Entries) (keyed : entries.IsKeyed)
    (nonempty : entries.fields ≠ []) :
    readItem (.map entries) = (do
      let joiner ← joinerOf entries
      entries.fields.mapM (readObject joiner)) := by
  rw [readItem]
  cases joinerOf entries with
  | error fault => rfl
  | ok joiner =>
      simp only [bind, Except.bind, (reads_fields_read_objects joiner).eq_map_m entries keyed]
      cases result : entries.fields.mapM (readObject joiner) with
      | error fault => rfl
      | ok objects =>
          cases objects with
          | nil =>
              have empty := ((map_m_eq_ok _ _ _).mp result).length_eq
              exact absurd (List.eq_nil_of_length_eq_zero empty) nonempty
          | cons first others => rfl

theorem read_item_map_part (entries : Entries) (field : String × Value) (part : Entries)
    (isPart : entries.IsNamedPart field part) :
    readItem (.map part) = (do
      let joiner ← joinerOf entries
      (fun object => [object]) <$> readObject joiner field) := by
  have joined : joinerOf part = joinerOf entries := by simp only [joinerOf, isPart.joined]
  have nonempty : part.fields ≠ [] := by simp [isPart.fields]
  rw [read_item_map_of_keyed part isPart.keyed nonempty, isPart.fields, joined]
  cases joinerOf entries with
  | error fault => rfl
  | ok joiner =>
      simp only [bind, Except.bind, List.mapM_cons, List.mapM_nil]
      cases readObject joiner field <;> rfl

theorem read_item_map_parts (entries : Entries) (parts : List Entries) (keyed : entries.IsKeyed)
    (nonempty : entries.fields ≠ [])
    (split : List.Forall₂ entries.IsNamedPart entries.fields parts) :
    readItem (.map entries) = List.flatten <$> parts.mapM fun part => readItem (.map part) := by
  have each : (entries.fields.mapM fun field => do
      let joiner ← joinerOf entries
      (fun object => [object]) <$> readObject joiner field) =
        parts.mapM fun part => readItem (.map part) :=
    map_m_eq_map_m (split.imp fun field part isPart =>
      (read_item_map_part entries field part isPart).symm)
  rw [← each, read_item_map_of_keyed entries keyed nonempty]
  cases joinerOf entries with
  | ok joiner => exact (flatten_map_m_single (readObject joiner) entries.fields).symm
  | error fault =>
      -- Without a joiner there is no object at all, so the first part is refused for it.
      cases fields : entries.fields with
      | nil => exact absurd fields nonempty
      | cons field fields => rfl

theorem read_items_map_parts (entries : Entries) (parts : List Entries) (keyed : entries.IsKeyed)
    (nonempty : entries.fields ≠ [])
    (split : List.Forall₂ entries.IsNamedPart entries.fields parts) :
    readItem (.map entries) = readItems (parts.map .map) := by
  rw [read_item_map_parts entries parts keyed nonempty split, read_items_eq_map_m, List.mapM_map]
  rfl

theorem read_singleton (item listed : Value) (single : item.items? = none)
    (sequence : listed.items? = some [item]) (items : List Projection) :
    read item = .ok items ↔ read listed = .ok items := by
  rw [read_eq_ok, read_eq_ok, contents, contents, single, sequence]
  rfl

theorem read_append (left right whole : Value) (items others : List Value)
    (first : left.items? = some items) (second : right.items? = some others)
    (both : whole.items? = some (items ++ others)) :
    read whole = (do
      let first ← read left
      let second ← read right
      .ok (first ++ second)) := by
  rw [read_sequence left items first, read_sequence right others second,
    read_sequence whole _ both, read_items_append]

theorem step_append (outcome : Outcome) (left right whole : Value) (items others : List Projection)
    (first : read left = .ok items) (second : read right = .ok others)
    (both : read whole = .ok (items ++ others)) :
    ((outcome.step ⟨.projection, left⟩).value.step ⟨.projection, right⟩).value =
      (outcome.step ⟨.projection, whole⟩).value := by
  apply outcome.step_together _ _ _ (.addProjections items) (.addProjections others)
    (.addProjections (items ++ others))
  · exact (Step.projection_edit_eq_some left _).mpr ⟨items, first, rfl⟩
  · exact (Step.projection_edit_eq_some right _).mpr ⟨others, second, rfl⟩
  · exact (Step.projection_edit_eq_some whole _).mpr ⟨items ++ others, both, rfl⟩
  · intro state
    simp [Edit.apply]

/-- Projection inputs can be put together and taken apart. Lists are read one after the other and
are accepted exactly if both are, so steps with them can be taken together. A single item does what
the list of it does. A map is read as the maps of its single names under the same joiner, in their
order, wherever it stands; and a name over a single item is read like the name over the list of
it. -/
theorem projection_inputs_compose :
    (∀ (left right whole : Value) (items others : List Value), left.items? = some items →
      right.items? = some others → whole.items? = some (items ++ others) →
      read whole = (do let first ← read left; let second ← read right; .ok (first ++ second)) ∧
      ((∃ fault, read whole = .error fault) ↔
        (∃ fault, read left = .error fault) ∨ ∃ fault, read right = .error fault) ∧
      ∀ outcome : Outcome, (∃ items, read left = .ok items) → (∃ items, read right = .ok items) →
        ((outcome.step ⟨.projection, left⟩).value.step ⟨.projection, right⟩).value =
          (outcome.step ⟨.projection, whole⟩).value) ∧
    (∀ item listed : Value, item.items? = none → listed.items? = some [item] →
      (∀ items, read item = .ok items ↔ read listed = .ok items) ∧
      ∀ outcome : Outcome, (outcome.step ⟨.projection, item⟩).value =
        (outcome.step ⟨.projection, listed⟩).value) ∧
    (∀ (entries : Entries) (parts : List Entries), entries.IsKeyed → entries.fields ≠ [] →
      List.Forall₂ entries.IsNamedPart entries.fields parts →
      read (.map entries) = List.flatten <$> parts.mapM (fun part => read (.map part)) ∧
      ((∃ fault, read (.map entries) = .error fault) ↔
        ∃ part ∈ parts, ∃ fault, read (.map part) = .error fault) ∧
      ∀ input changed : Value,
        Reworded (fun item others => item = .map entries ∧ others = parts.map .map)
          input.contents changed.contents →
        ∀ items, read input = .ok items ↔ read changed = .ok items) ∧
    ∀ (before after : Entries) (name : String) (value listed : Value), value.items? = none →
      listed.items? = some [value] →
      read (.map (before ++ (.text name, value) :: after)) =
        read (.map (before ++ (.text name, listed) :: after)) := by
  refine ⟨?_, ?_, ?_, ?_⟩
  · intro left right whole items others first second both
    have together := read_append left right whole items others first second both
    refine ⟨together, ?_, ?_⟩
    · rw [together, rejected_append]
    · rintro outcome ⟨items, accepted⟩ ⟨more, acceptedToo⟩
      apply step_append outcome left right whole items more accepted acceptedToo
      rw [together, accepted, acceptedToo]
      rfl
  · intro item listed single sequence
    have alike := read_singleton item listed single sequence
    exact ⟨alike, fun outcome => outcome.step_congr .projection item listed
      (Step.projection_edit_congr item listed alike)⟩
  · intro entries parts keyed nonempty split
    have apart : read (.map entries) = List.flatten <$> parts.mapM fun part => read (.map part) :=
      read_item_map_parts entries parts keyed nonempty split
    refine ⟨apart, ?_, ?_⟩
    · rw [apart, rejected_map_m]
    · intro input changed reworded
      apply read_reworded _ input changed reworded
      rintro item others ⟨rfl, rfl⟩
      exact read_items_map_parts entries parts keyed nonempty split
  · intro before after name value listed single sequence
    apply read_item_map_congr
    rw [read_contents_single value single, read_contents_sequence listed _ sequence,
      read_items_singleton]

/-- Two names under one joiner in the list of a reference that stands under a name, a name over one
item, and two lists taken together behind a state with a filter. -/
theorem projection_inputs_compose_nested :
    let people : Entries :=
      [(.marker .join, .text "->"), (.text "author", .list [.text "name", .text "bio"]),
        (.text "editor", .text "name")]
    let parts : List Entries :=
      [[(.marker .join, .text "->"), (.text "author", .list [.text "name", .text "bio"])],
        [(.text "editor", .text "name"), (.marker .join, .text "->")]]
    let around : List Value → Value := fun items =>
      .map [(.text "post", .list [.list [.text "source", .tuple items, .marker .follow]])]
    let left : Value := .tuple [.text "title", around [.text "url", .map people]]
    let outcome : Outcome := .state { filters := [.raw "defined(slug)"] }
    (((outcome.step ⟨.projection, left⟩).value.step ⟨.projection, .list [.map people]⟩).value =
      (outcome.step ⟨.projection,
        .tuple [.text "title", around [.text "url", .map people], .map people]⟩).value) ∧
    (outcome.step ⟨.projection, .map people⟩).value =
      (outcome.step ⟨.projection, .list [.map people]⟩).value ∧
    read (.map people) = List.flatten <$> parts.mapM (fun part => read (.map part)) ∧
    (∀ items, read (around [.text "url", .map people]) = .ok items ↔
      read (around (.text "url" :: parts.map .map)) = .ok items) ∧
    read (.map [(.text "editor", .text "name")]) =
      read (.map [(.text "editor", .list [.text "name"])]) := by
  intro people parts around left outcome
  obtain ⟨appended, single, apart, named⟩ := projection_inputs_compose
  have keyed : people.IsKeyed := by simp [people, Entries.IsKeyed, Value.isMarker]
  have nonempty : people.fields ≠ [] := by simp [people, Entries.fields]
  have split : List.Forall₂ (Entries.IsNamedPart people) people.fields parts := by
    refine .cons ⟨?_, rfl, rfl⟩ (.cons ⟨?_, rfl, rfl⟩ .nil) <;>
      simp [Entries.IsKeyed, Value.isMarker]
  refine ⟨?_, ?_, (apart people parts keyed nonempty split).1, ?_, ?_⟩
  · exact (appended left (.list [.map people]) _ _ _ rfl rfl rfl).2.2 outcome ⟨_, rfl⟩ ⟨_, rfl⟩
  · exact (single (.map people) (.list [.map people]) rfl rfl).2 outcome
  · apply (apart people parts keyed nonempty split).2.2
    apply Reworded.named [] "post" _ _ []
    apply Reworded.referenced _ _ "source" _ _ (.marker .follow) _ _ rfl rfl rfl rfl
    exact .among [.text "url"] [.map people] (parts.map .map) [] (.exchanged _ _ ⟨rfl, rfl⟩)
  · exact named [] [] "editor" (.text "name") (.list [.text "name"]) rfl rfl

end Projection

end GroqQuery
