import GroqQuery.Value
import Mathlib.Data.List.Forall2

/-!
Readings that may fail. A reading that is put together from several comes to a result when each of
them does. A map is read field by field, with the markers passed over.
-/

namespace GroqQuery

section

variable {Item Content Result Fault : Type}

/-- A reading that comes to a result. -/
def Accepted (result : Except Fault Content) : Prop := ∃ content, result = .ok content

@[simp] theorem accepted_ok (content : Content) :
    Accepted (.ok content : Except Fault Content) := ⟨content, rfl⟩

@[simp] theorem not_accepted_error (fault : Fault) :
    ¬Accepted (.error fault : Except Fault Content) := by
  intro accepted
  obtain ⟨content, other⟩ := accepted
  cases other

theorem not_accepted_iff (result : Except Fault Content) :
    ¬Accepted result ↔ ∃ fault, result = .error fault := by
  cases result with
  | ok content => simp
  | error fault => simp

@[simp] theorem accepted_map (change : Content → Result) (result : Except Fault Content) :
    Accepted (change <$> result) ↔ Accepted result := by
  cases result with
  | ok content => exact ⟨fun _ => ⟨content, rfl⟩, fun _ => ⟨change content, rfl⟩⟩
  | error fault => exact ⟨fun other => by simp at other, fun other => by simp at other⟩

theorem map_eq_ok (change : Content → Result) (result : Except Fault Content) (final : Result) :
    change <$> result = .ok final ↔ ∃ content, result = .ok content ∧ change content = final := by
  cases result with
  | ok content => simp [Functor.map, Except.map]
  | error fault => simp [Functor.map, Except.map]

theorem map_error_eq_ok {Other : Type} (change : Fault → Other) (result : Except Fault Content)
    (content : Content) : result.mapError change = .ok content ↔ result = .ok content := by
  cases result <;> simp [Except.mapError]

theorem bind_eq_ok (result : Except Fault Content) (next : Content → Except Fault Result)
    (final : Result) :
    (result >>= next) = .ok final ↔ ∃ content, result = .ok content ∧ next content = .ok final := by
  cases result with
  | ok content => simp [bind, Except.bind]
  | error fault => simp [bind, Except.bind]

theorem bind_eq_error (result : Except Fault Content) (next : Content → Except Fault Result)
    (fault : Fault) :
    (result >>= next) = .error fault ↔
      result = .error fault ∨ ∃ content, result = .ok content ∧ next content = .error fault := by
  cases result with
  | ok content => simp [bind, Except.bind]
  | error other => simp [bind, Except.bind]

theorem accepted_bind (result : Except Fault Content) (next : Content → Except Fault Result) :
    Accepted (result >>= next) ↔ ∃ content, result = .ok content ∧ Accepted (next content) := by
  simp only [Accepted, bind_eq_ok]
  exact ⟨fun ⟨final, content, first, second⟩ => ⟨content, first, final, second⟩,
    fun ⟨content, first, final, second⟩ => ⟨final, content, first, second⟩⟩

@[simp] theorem accepted_bind_ok (result : Except Fault Content) (change : Content → Result) :
    Accepted (result >>= fun content => .ok (change content)) ↔ Accepted result :=
  accepted_map change result

theorem map_m_eq_ok (read : Item → Except Fault Content) (items : List Item)
    (contents : List Content) :
    items.mapM read = .ok contents ↔
      List.Forall₂ (fun item content => read item = .ok content) items contents := by
  induction items generalizing contents with
  | nil => cases contents <;> simp [pure, Except.pure]
  | cons item items induction =>
      simp only [List.mapM_cons, bind_eq_ok, induction]
      cases contents with
      | nil => simp [pure, Except.pure]
      | cons content contents => simp [pure, Except.pure]

theorem map_ne_error (change : Content → Result) (result : Except Fault Content) (fault : Fault)
    (first : result ≠ .error fault) : change <$> result ≠ .error fault := by
  cases result with
  | ok content => simp [Functor.map, Except.map]
  | error other => simpa [Functor.map, Except.map] using first

theorem bind_ne_error (result : Except Fault Content) (next : Content → Except Fault Result)
    (fault : Fault) (first : result ≠ .error fault)
    (later : ∀ content, result = .ok content → next content ≠ .error fault) :
    (result >>= next) ≠ .error fault := by
  intro failed
  rw [bind_eq_error] at failed
  cases failed with
  | inl same => exact first same
  | inr same =>
      obtain ⟨content, reads, same⟩ := same
      exact later content reads same

theorem map_m_ne_error (read : Item → Except Fault Content) (items : List Item) (fault : Fault)
    (each : ∀ item ∈ items, read item ≠ .error fault) : items.mapM read ≠ .error fault := by
  induction items with
  | nil => simp [pure, Except.pure]
  | cons item items induction =>
      obtain ⟨first, others⟩ := List.forall_mem_cons.mp each
      rw [List.mapM_cons]
      apply bind_ne_error _ _ _ first
      intro content _
      apply bind_ne_error _ _ _ (induction others)
      simp [pure, Except.pure]

theorem map_m_eq_map_m {Other : Type} {read : Item → Except Fault Content}
    {readOther : Other → Except Fault Content} {items : List Item} {others : List Other}
    (same : List.Forall₂ (fun item other => read item = readOther other) items others) :
    items.mapM read = others.mapM readOther := by
  induction same with
  | nil => rfl
  | cons first later induction => rw [List.mapM_cons, List.mapM_cons, first, induction]

theorem map_of_map_m {read : Item → Except Fault Content} {items : List Item}
    {contents : List Content} (reads : items.mapM read = .ok contents)
    {ofItem : Item → Result} {ofContent : Content → Result}
    (each : ∀ item ∈ items, ∀ content, read item = .ok content → ofContent content = ofItem item) :
    contents.map ofContent = items.map ofItem := by
  rw [map_m_eq_ok] at reads
  induction reads with
  | nil => rfl
  | @cons item content items contents first later induction =>
      rw [List.forall_mem_cons] at each
      rw [List.map_cons, List.map_cons, each.1 content first, induction each.2]

theorem flat_map_of_map_m {Other : Type} {related : Other → Result → Prop}
    {read : Item → Except Fault Content} {items : List Item} {contents : List Content}
    (reads : items.mapM read = .ok contents) {ofItem : Item → List Other}
    {ofContent : Content → List Result}
    (each : ∀ item ∈ items, ∀ content, read item = .ok content →
      List.Forall₂ related (ofItem item) (ofContent content)) :
    List.Forall₂ related (items.flatMap ofItem) (contents.flatMap ofContent) := by
  rw [map_m_eq_ok] at reads
  induction reads with
  | nil => exact .nil
  | @cons item content items contents first later induction =>
      rw [List.forall_mem_cons] at each
      rw [List.flatMap_cons, List.flatMap_cons]
      exact List.rel_append (each.1 content first) (induction each.2)

theorem accepted_map_m (read : Item → Except Fault Content) (items : List Item) :
    Accepted (items.mapM read) ↔ ∀ item ∈ items, Accepted (read item) := by
  induction items with
  | nil => simp [pure, Except.pure]
  | cons item items induction =>
      simp only [List.mapM_cons, accepted_bind, List.forall_mem_cons, ← induction]
      simp [Accepted, pure, Except.pure]

theorem rejected_map_m (read : Item → Except Fault (List Content)) (items : List Item) :
    (∃ fault, List.flatten <$> items.mapM read = .error fault) ↔
      ∃ item ∈ items, ∃ fault, read item = .error fault := by
  simp only [← not_accepted_iff, accepted_map, accepted_map_m, not_forall, exists_prop]

theorem rejected_append (left right : Except Fault (List Content)) :
    (∃ fault, (do let first ← left; let second ← right; .ok (first ++ second)) = .error fault) ↔
      (∃ fault, left = .error fault) ∨ ∃ fault, right = .error fault := by
  cases left with
  | error fault => simp [bind, Except.bind]
  | ok first => cases right <;> simp [bind, Except.bind]

theorem flatten_map_m_append (read : Item → Except Fault (List Content))
    (items others : List Item) :
    List.flatten <$> (items ++ others).mapM read = (do
      let first ← List.flatten <$> items.mapM read
      let second ← List.flatten <$> others.mapM read
      .ok (first ++ second)) := by
  rw [List.mapM_append]
  cases items.mapM read with
  | error fault => rfl
  | ok first =>
      cases others.mapM read with
      | error fault => rfl
      | ok second =>
          change Except.ok (first ++ second).flatten = Except.ok (first.flatten ++ second.flatten)
          rw [List.flatten_append]

theorem flatten_map_m_singleton (read : Item → Except Fault (List Content)) (item : Item) :
    List.flatten <$> [item].mapM read = read item := by
  rw [List.mapM_cons, List.mapM_nil]
  cases read item with
  | error fault => rfl
  | ok contents => exact congrArg Except.ok (List.append_nil contents)

theorem flatten_map_m_single (read : Item → Except Fault Content) (items : List Item) :
    List.flatten <$> items.mapM (fun item => (fun content => [content]) <$> read item) =
      items.mapM read := by
  induction items with
  | nil => rfl
  | cons item items induction =>
      rw [List.mapM_cons, List.mapM_cons, ← induction]
      cases read item with
      | error fault => rfl
      | ok content =>
          cases items.mapM fun item => (fun content => [content]) <$> read item <;> rfl

end

namespace Value

theorem items_eq_some (value : Value) (items : List Value) :
    value.items? = some items ↔ value = .list items ∨ value = .tuple items := by
  cases value <;> simp [items?]

theorem is_scalar_of_scalar (value : Value) (text : String) (written : value.scalar? = some text) :
    value.isScalar = true := by
  cases value with
  | null | bool _ | int _ | float _ | text _ => rfl
  | _ => cases written

theorem is_scalar_of_is_writable (value : Value) (writable : value.isWritable = true) :
    value.isScalar = true := by
  obtain ⟨text, written⟩ := Option.isSome_iff_exists.mp writable
  exact value.is_scalar_of_scalar text written

theorem scalar_sequence (value : Value) (items : List Value)
    (sequence : value.items? = some items) : value.scalar? = none := by
  obtain rfl | rfl := (value.items_eq_some items).mp sequence
  · rfl
  · rfl

theorem items_of_is_scalar (value : Value) (scalar : value.isScalar = true) :
    value.items? = none := by
  cases value with
  | list items | tuple items => cases scalar
  | _ => rfl

theorem read_scalar_of_overlong {Fault : Type} (refusal overlong : Fault) (value : Value)
    (scalar : value.isScalar = true) (unwritten : value.scalar? = none) :
    value.readScalar refusal overlong = .error overlong := by
  rw [readScalar, if_pos scalar, unwritten]

theorem read_scalar_eq_ok {Fault : Type} (refusal overlong : Fault) (value : Value)
    (text : String) : value.readScalar refusal overlong = .ok text ↔ value.scalar? = some text := by
  unfold readScalar
  cases written : value.scalar? with
  | none => cases value.isScalar <;> simp
  | some content => simp [value.is_scalar_of_scalar content written]

@[simp] theorem accepted_read_scalar {Fault : Type} (refusal overlong : Fault) (value : Value) :
    Accepted (value.readScalar refusal overlong) ↔ value.isWritable = true := by
  simp only [Accepted, read_scalar_eq_ok, isWritable, Option.isSome_iff_exists]

end Value

namespace Entries

/-- The fields of a map with their names, in order. Markers are no fields. -/
def fields (entries : Entries) : List (String × Value) :=
  entries.filterMap fun
    | (.text name, value) => some (name, value)
    | _ => none

/-- Whether every key is the name of a field or a marker. -/
def IsKeyed (entries : Entries) : Prop :=
  ∀ entry ∈ entries, entry.1.isMarker = true ∨ ∃ name, entry.1 = .text name

def hasMarker (entries : Entries) (marker : Marker) : Bool :=
  entries.any fun
    | (.marker found, _) => found = marker
    | _ => false

theorem is_some_marked (entries : Entries) (marker : Marker) :
    (entries.marked? marker).isSome = entries.hasMarker marker := by
  rw [marked?, List.isSome_findSome?, hasMarker]
  congr 1
  funext entry
  obtain ⟨key, value⟩ := entry
  cases key with
  | marker found => by_cases same : found = marker <;> simp [same]
  | _ => rfl

theorem fields_marker (mark : Marker) (value : Value) (entries : Entries) :
    fields ((.marker mark, value) :: entries) = fields entries := rfl

theorem fields_text (name : String) (value : Value) (entries : Entries) :
    fields ((.text name, value) :: entries) = (name, value) :: fields entries := rfl

theorem mem_fields (entries : Entries) (field : String × Value) :
    field ∈ entries.fields ↔ (.text field.1, field.2) ∈ entries := by
  rw [fields, List.mem_filterMap]
  constructor
  · intro found
    obtain ⟨⟨key, value⟩, member, same⟩ := found
    cases key with
    | text name =>
        cases same
        exact member
    | _ => cases same
  · intro member
    exact ⟨_, member, rfl⟩

theorem fields_of_markers (entries : Entries)
    (markers : ∀ entry ∈ entries, entry.1.isMarker = true) : entries.fields = [] := by
  rw [fields, List.filterMap_eq_nil_iff]
  intro entry member
  obtain ⟨key, value⟩ := entry
  cases key with
  | text name => cases markers _ member
  | _ => rfl

theorem is_keyed_marker (mark : Marker) (value : Value) (entries : Entries) :
    IsKeyed ((.marker mark, value) :: entries) ↔ IsKeyed entries := by
  simp [IsKeyed, Value.isMarker]

theorem is_keyed_text (name : String) (value : Value) (entries : Entries) :
    IsKeyed ((.text name, value) :: entries) ↔ IsKeyed entries := by
  simp [IsKeyed]

theorem flag_of_marked {left right : Entries} {marker : Marker}
    (same : left.marked? marker = right.marked? marker) : left.flag marker = right.flag marker := by
  rw [flag, flag, same]

end Entries

/-- A reader that goes through the entries of a map and reads its fields one by one. -/
structure ReadsFields {Content Fault : Type} (readEach : Entries → Except Fault (List Content))
    (read : String × Value → Except Fault Content) : Prop where
  empty : readEach [] = .ok []
  marker : ∀ mark value entries, readEach ((.marker mark, value) :: entries) = readEach entries
  text : ∀ name value entries, readEach ((.text name, value) :: entries) = (do
    let content ← read (name, value)
    let others ← readEach entries
    .ok (content :: others))
  other : ∀ key value entries, key.isMarker = false → (∀ name, key ≠ .text name) →
    ¬Accepted (readEach ((key, value) :: entries))

theorem ReadsFields.eq_ok {Content Fault : Type}
    {readEach : Entries → Except Fault (List Content)}
    {read : String × Value → Except Fault Content} (reads : ReadsFields readEach read)
    (entries : Entries) (contents : List Content) :
    readEach entries = .ok contents ↔
      entries.IsKeyed ∧ entries.fields.mapM read = .ok contents := by
  induction entries generalizing contents with
  | nil => simp [reads.empty, Entries.IsKeyed, Entries.fields, pure, Except.pure]
  | cons entry entries induction =>
      obtain ⟨key, value⟩ := entry
      cases key with
      | marker mark =>
          rw [reads.marker, induction, Entries.is_keyed_marker, Entries.fields_marker]
      | text name =>
          rw [reads.text, Entries.is_keyed_text, Entries.fields_text]
          simp only [List.mapM_cons, bind_eq_ok, induction]
          constructor
          · rintro ⟨content, first, others, ⟨keyed, later⟩, same⟩
            exact ⟨keyed, content, first, others, later, same⟩
          · rintro ⟨keyed, content, first, others, later, same⟩
            exact ⟨content, first, others, ⟨keyed, later⟩, same⟩
      | _ =>
          constructor
          · intro read
            exact absurd ⟨contents, read⟩ (reads.other _ value entries rfl nofun)
          · rintro ⟨keyed, _⟩
            simp [Entries.IsKeyed, Value.isMarker] at keyed

theorem ReadsFields.eq_map_m {Content Fault : Type}
    {readEach : Entries → Except Fault (List Content)}
    {read : String × Value → Except Fault Content} (reads : ReadsFields readEach read)
    (entries : Entries) (keyed : entries.IsKeyed) :
    readEach entries = entries.fields.mapM read := by
  induction entries with
  | nil => exact reads.empty
  | cons entry entries induction =>
      obtain ⟨key, value⟩ := entry
      rcases keyed (key, value) List.mem_cons_self with marker | ⟨name, rfl⟩
      · cases key with
        | marker mark =>
            rw [reads.marker, Entries.fields_marker]
            exact induction ((Entries.is_keyed_marker mark value entries).mp keyed)
        | _ => cases marker
      · rw [reads.text, Entries.fields_text, List.mapM_cons,
          induction ((Entries.is_keyed_text name value entries).mp keyed)]
        rfl

end GroqQuery
