import GroqQuery.Proofs.Filter.Reading
import GroqQuery.Proofs.Query.Inputs
import GroqQuery.Proofs.Query.Run
import GroqQuery.Proofs.Query.Texts

/-!
Different spellings of the same filters. A field with its value may stand alone, in a map or in a
list of maps; a map may be taken apart into maps of its fields, and a list into shorter lists. All
these are read alike, accepted or refused together.
-/

namespace GroqQuery

/-- A map with a single one of the fields of another map, under the same nesting marker. -/
structure Entries.IsPart (entries : Entries) (field : String × Value) (part : Entries) : Prop where
  keyed : part.IsKeyed
  fields : part.fields = [field]
  nested : part.marked? .nest = entries.marked? .nest

namespace Filter

theorem read_map_of_keyed (entries : Entries) (keyed : entries.IsKeyed)
    (nonempty : entries.fields ≠ []) :
    read (.map entries) =
      entries.fields.mapM fun field => readEntry (entries.flag .nest) field.1 field.2 := by
  rw [read_map, readMap, (reads_fields_read_entries _).eq_map_m entries keyed]
  cases result : entries.fields.mapM fun field =>
      readEntry (entries.flag .nest) field.1 field.2 with
  | error fault => rfl
  | ok clauses =>
      cases clauses with
      | nil =>
          have empty := ((map_m_eq_ok _ _ _).mp result).length_eq
          exact absurd (List.eq_nil_of_length_eq_zero empty) nonempty
      | cons first others => rfl

theorem read_map_part (entries : Entries) (field : String × Value) (part : Entries)
    (isPart : entries.IsPart field part) :
    read (.map part) =
      (fun clause => [clause]) <$> readEntry (entries.flag .nest) field.1 field.2 := by
  have nonempty : part.fields ≠ [] := by simp [isPart.fields]
  rw [read_map_of_keyed part isPart.keyed nonempty, isPart.fields,
    Entries.flag_of_marked isPart.nested, List.mapM_cons, List.mapM_nil]
  cases readEntry (entries.flag .nest) field.1 field.2 <;> rfl

theorem read_map_parts (entries : Entries) (parts : List Entries) (keyed : entries.IsKeyed)
    (nonempty : entries.fields ≠ [])
    (split : List.Forall₂ entries.IsPart entries.fields parts) :
    read (.map entries) = List.flatten <$> parts.mapM fun part => read (.map part) := by
  have each : (entries.fields.mapM fun field =>
      (fun clause => [clause]) <$> readEntry (entries.flag .nest) field.1 field.2) =
        parts.mapM fun part => read (.map part) :=
    map_m_eq_map_m
      (split.imp fun field part isPart => (read_map_part entries field part isPart).symm)
  rw [← each, flatten_map_m_single, read_map_of_keyed entries keyed nonempty]

theorem read_clauses_append (items others : List Value) :
    readClauses (items ++ others) = (do
      let first ← readClauses items
      let second ← readClauses others
      .ok (first ++ second)) := by
  rw [read_clauses_eq_map_m, read_clauses_eq_map_m, read_clauses_eq_map_m, flatten_map_m_append]

theorem read_of_textless (value : Value) (items : List Value)
    (sequence : value.items? = some items)
    (textless : ∀ item ∈ items, ∀ content, item ≠ .text content) :
    read value = readClauses items := by
  apply read_of_several value items sequence
  rintro key operand rfl
  exact textless (.text key) List.mem_cons_self key rfl

theorem read_append (left right whole : Value) (items others : List Value)
    (first : left.items? = some items) (second : right.items? = some others)
    (both : whole.items? = some (items ++ others))
    (textless : ∀ item ∈ items ++ others, ∀ content, item ≠ .text content) :
    read whole = (do
      let first ← read left
      let second ← read right
      .ok (first ++ second)) := by
  rw [read_of_textless whole _ both textless,
    read_of_textless left items first fun item member =>
      textless item (List.mem_append_left others member),
    read_of_textless right others second fun item member =>
      textless item (List.mem_append_right items member),
    read_clauses_append]

theorem read_pair (value : Value) (key : String) (operand : Value)
    (sequence : value.items? = some [.text key, operand]) :
    read value = (fun clause => [clause]) <$> readEntry false key operand := by
  rw [read_sequence value _ sequence, read_list_pair]

theorem read_single_field (key : String) (operand : Value) :
    read (.map [(.text key, operand)]) =
      (fun clause => [clause]) <$> readEntry false key operand := by
  have keyed : Entries.IsKeyed [(.text key, operand)] :=
    (Entries.is_keyed_text key operand []).mpr fun _ absent => by cases absent
  exact read_map_part _ (key, operand) _ ⟨keyed, rfl, rfl⟩

theorem read_list_of_map (value : Value) (entries : Entries)
    (sequence : value.items? = some [.map entries]) : read value = read (.map entries) := by
  rw [read_of_textless value _ sequence (by simp), read_clauses_singleton, readTopItem, read_map]

theorem render_equality (key value : String) :
    (Filter.compare key "==" value false).render = (Filter.equals key value).render := by
  simp [render, ← String.toList_inj]

end Filter

namespace State

theorem text_add_filters (state : State) (filters others : List Filter)
    (written : filters.map Filter.render = others.map Filter.render) :
    (Edit.apply state (.addFilters filters)).text? =
      (Edit.apply state (.addFilters others)).text? := by
  have body : Filter.renderAll (state.filters ++ filters) =
      Filter.renderAll (state.filters ++ others) := by
    rw [Filter.renderAll, Filter.renderAll, List.map_append, List.map_append, written]
  have clause : filterText (state.filters ++ filters) = filterText (state.filters ++ others) := by
    rw [filterText, filterText, body]
  simp only [text?, unlimitedText, Edit.apply, clause]

theorem step_filter (state : State) (input : Value) (filters : List Filter)
    (reads : Filter.read input = .ok filters) :
    (state.step ⟨.filter, input⟩).value = .state (Edit.apply state (.addFilters filters)) :=
  step_of_edit state ⟨.filter, input⟩ _
    ((Step.filter_edit_eq_some input _).mpr ⟨filters, reads, rfl⟩)

theorem step_equality_build (state : State) (key : String) (value comparison : Value)
    (scalar : value.isScalar = true) (parts : comparison.items? = some [.text "==", value]) :
    (state.step ⟨.filter, .map [(.text key, value)]⟩).value.build.value =
        (state.step ⟨.filter, .map [(.text key, comparison)]⟩).value.build.value ∧
      (value.isWritable = true → state.HasText → ∃ text,
        (state.step ⟨.filter, .map [(.text key, value)]⟩).value.build.value = .ok text) := by
  cases found : value.scalar? with
  | some written =>
      have plain : Filter.read (.map [(.text key, value)]) = .ok [.equals key written] := by
        have entry := (Filter.read_entry_plain key value _).mpr (.inl ⟨written, found, rfl⟩)
        rw [Filter.read_single_field, entry]
        rfl
      have compared :
          Filter.read (.map [(.text key, comparison)]) = .ok [.compare key "==" written false] := by
        have comparison := (Filter.read_comparison_eq_ok key [.text "==", value] _).mpr
          ⟨"==", value, [], written, rfl, found, by simp, rfl⟩
        have entry := (Filter.read_entry_plain key _ _).mpr (.inr ⟨_, parts, comparison⟩)
        rw [Filter.read_single_field, entry]
        rfl
      rw [step_filter state _ _ plain, step_filter state _ _ compared]
      constructor
      · apply Outcome.build_state_congr
        exact state.text_add_filters _ _ (by simp [Filter.render_equality])
      · intro _ hasText
        exact (Outcome.exists_build_state_iff _).mpr hasText
  | none =>
      -- A number without a numeral is refused in both spellings.
      have plain : Filter.readEntry false key value = .error .overlong := by
        simp only [Filter.readEntry, value.items_of_is_scalar scalar,
          value.read_scalar_of_overlong _ _ scalar found]
        rfl
      have compared : Filter.readEntry false key comparison = .error .overlong := by
        simp only [Filter.readEntry, parts, Filter.readComparison,
          value.read_scalar_of_overlong _ _ scalar found, List.all_nil]
        simp
        rfl
      have refused : ∀ operand, Filter.readEntry false key operand = .error .overlong →
          (Step.mk .filter (.map [(.text key, operand)])).isRejected = true := by
        intro operand read
        rw [Step.isRejected, Step.edit?, Step.filterEdit?, Filter.read_single_field, read]
        rfl
      rw [step_of_rejected state _ (refused value plain),
        step_of_rejected state _ (refused comparison compared)]
      refine ⟨rfl, ?_⟩
      intro writable
      rw [Value.isWritable, found] at writable
      cases writable

end State

theorem Outcome.step_append (outcome : Outcome) (left right whole : Value)
    (filters others : List Filter) (first : Filter.read left = .ok filters)
    (second : Filter.read right = .ok others)
    (both : Filter.read whole = .ok (filters ++ others)) :
    ((outcome.step ⟨.filter, left⟩).value.step ⟨.filter, right⟩).value =
      (outcome.step ⟨.filter, whole⟩).value := by
  apply outcome.step_together _ _ _ (.addFilters filters) (.addFilters others)
    (.addFilters (filters ++ others))
  · exact (Step.filter_edit_eq_some left _).mpr ⟨filters, first, rfl⟩
  · exact (Step.filter_edit_eq_some right _).mpr ⟨others, second, rfl⟩
  · exact (Step.filter_edit_eq_some whole _).mpr ⟨filters ++ others, both, rfl⟩
  · intro state
    simp [Edit.apply]

namespace Filter

/-- Spellings of the same filters agree. A field with its value is read alike as a pair, as a map
and as a list of that map, and a comparison for equality is written like the field itself. A map
with fields is read as the maps of its single fields under the same nesting marker, and a list
without texts as the lists it is put together from, each accepted exactly if all of the others are;
so steps with such lists can be taken together. -/
theorem spellings_agree :
    (∀ (key : String) (operand pair listed : Value), pair.items? = some [.text key, operand] →
      listed.items? = some [.map [(.text key, operand)]] →
      ∃ clause : Except FilterFault Filter,
        read pair = (fun clause => [clause]) <$> clause ∧
        read (.map [(.text key, operand)]) = (fun clause => [clause]) <$> clause ∧
        read listed = (fun clause => [clause]) <$> clause) ∧
    (∀ (state : State) (key : String) (value comparison : Value), value.isScalar = true →
      comparison.items? = some [.text "==", value] →
      (state.step ⟨.filter, .map [(.text key, value)]⟩).value.build.value =
          (state.step ⟨.filter, .map [(.text key, comparison)]⟩).value.build.value ∧
        (value.isWritable = true → state.HasText → ∃ text,
          (state.step ⟨.filter, .map [(.text key, value)]⟩).value.build.value = .ok text)) ∧
    (∀ (entries : Entries) (parts : List Entries), entries.IsKeyed → entries.fields ≠ [] →
      List.Forall₂ entries.IsPart entries.fields parts →
      read (.map entries) = List.flatten <$> parts.mapM (fun part => read (.map part)) ∧
      ((∃ fault, read (.map entries) = .error fault) ↔
        ∃ part ∈ parts, ∃ fault, read (.map part) = .error fault)) ∧
    ∀ (left right whole : Value) (items others : List Value), left.items? = some items →
      right.items? = some others → whole.items? = some (items ++ others) →
      (∀ item ∈ items ++ others, ∀ content, item ≠ .text content) →
      read whole = (do let first ← read left; let second ← read right; .ok (first ++ second)) ∧
      ((∃ fault, read whole = .error fault) ↔
        (∃ fault, read left = .error fault) ∨ ∃ fault, read right = .error fault) ∧
      ∀ outcome : Outcome, (∃ filters, read left = .ok filters) →
        (∃ filters, read right = .ok filters) →
        ((outcome.step ⟨.filter, left⟩).value.step ⟨.filter, right⟩).value =
          (outcome.step ⟨.filter, whole⟩).value := by
  refine ⟨?_, State.step_equality_build, ?_, ?_⟩
  · intro key operand pair listed given inList
    refine ⟨readEntry false key operand, read_pair pair key operand given,
      read_single_field key operand, ?_⟩
    rw [read_list_of_map listed _ inList, read_single_field]
  · intro entries parts keyed nonempty split
    have apart := read_map_parts entries parts keyed nonempty split
    refine ⟨apart, ?_⟩
    rw [apart, rejected_map_m]
  · intro left right whole items others first second both textless
    have together := read_append left right whole items others first second both textless
    refine ⟨together, ?_, ?_⟩
    · rw [together, rejected_append]
    · rintro outcome ⟨filters, accepted⟩ ⟨more, acceptedToo⟩
      apply outcome.step_append left right whole filters more accepted acceptedToo
      rw [together, accepted, acceptedToo]
      rfl

/-- A category as a pair and in a list, with and without an operator; two calls in one map; a list
with a group taken apart. -/
theorem spellings_agree_grouped :
    let category : Value := .text "category"
    let news : Value := .text "'news'"
    let comparison : Value := .list [.text "==", news]
    let calls : Entries :=
      [(.marker .nest, .bool true), (.text "defined", .text "slug"), (.text "count", .text "tags")]
    let parts : List Entries :=
      [[(.marker .nest, .bool true), (.text "defined", .text "slug")],
        [(.marker .nest, .bool true), (.text "count", .text "tags")]]
    let alternatives : Value :=
      .list [.map [(.text "a", .int 1)], .map [(.text "b", .int 2), (.text "c", .null)]]
    let left : Value := .list [alternatives]
    let right : Value := .tuple [.map [(category, comparison)]]
    let whole : Value := .list [alternatives, .map [(category, comparison)]]
    let outcome : Outcome := .state { filters := [.raw "defined(slug)"] }
    (∃ clause : Except FilterFault Filter,
      read (.tuple [category, news]) = (fun clause => [clause]) <$> clause ∧
      read (.map [(category, news)]) = (fun clause => [clause]) <$> clause ∧
      read (.list [.map [(category, news)]]) = (fun clause => [clause]) <$> clause) ∧
    (∃ text,
      (outcome.step ⟨.filter, .map [(category, news)]⟩).value.build.value = .ok text ∧
      (outcome.step ⟨.filter, .map [(category, comparison)]⟩).value.build.value = .ok text) ∧
    read (.map calls) = List.flatten <$> parts.mapM (fun part => read (.map part)) ∧
    ((outcome.step ⟨.filter, left⟩).value.step ⟨.filter, right⟩).value =
      (outcome.step ⟨.filter, whole⟩).value := by
  intro category news comparison calls parts alternatives left right whole outcome
  have split : List.Forall₂ (Entries.IsPart calls) calls.fields parts := by
    refine .cons ⟨?_, rfl, rfl⟩ (.cons ⟨?_, rfl, rfl⟩ .nil) <;>
      simp [Entries.IsKeyed, Value.isMarker]
  refine ⟨?_, ?_, ?_, ?_⟩
  · exact spellings_agree.1 "category" news _ _ rfl rfl
  · obtain ⟨same, built⟩ := spellings_agree.2.1 { filters := [.raw "defined(slug)"] } "category"
      news comparison rfl rfl
    obtain ⟨text, found⟩ := built rfl fun slice limited => by cases limited
    exact ⟨text, found, same ▸ found⟩
  · have keyed : calls.IsKeyed := by simp [calls, Entries.IsKeyed, Value.isMarker]
    have nonempty : calls.fields ≠ [] := by simp [calls, Entries.fields]
    exact (spellings_agree.2.2.1 calls parts keyed nonempty split).1
  · have textless : ∀ item ∈ [alternatives, .map [(category, comparison)]],
        ∀ content, item ≠ .text content := by
      simp [alternatives]
    exact (spellings_agree.2.2.2 left right whole _ _ rfl rfl rfl textless).2.2 outcome
      ⟨_, rfl⟩ ⟨_, rfl⟩

end Filter

end GroqQuery
