import GroqQuery.Proofs.Projection.Composition
import GroqQuery.Proofs.Query.Shorthand

/-!
Different spellings of the same projection item. A sub-projection may be written as a name of a map
or as a reference with a list, and a scalar behind a key with or without a third part. The items
they are read as differ, but not what is built from them.
-/

namespace GroqQuery

namespace Projection

open Value

theorem is_follow_eq_false (flag : Value) (other : flag ≠ .marker .follow) :
    isFollow flag = false := by
  unfold isFollow
  split
  next => exact absurd rfl other
  next => rfl

theorem read_item_object (entries : Entries) (name joiner : String) (value : Value)
    (items : List Value) (keyed : entries.IsKeyed) (fields : entries.fields = [(name, value)])
    (joined : joinerOf entries = .ok joiner) (sequence : value.items? = some items) :
    readItem (.map entries) = (fun items => [.object name items joiner]) <$> readItems items := by
  have nonempty : entries.fields ≠ [] := by simp [fields]
  rw [read_item_map_of_keyed entries keyed nonempty, joined, fields]
  simp only [bind, Except.bind, List.mapM_cons, List.mapM_nil, readObject,
    read_contents_sequence value items sequence]
  cases readItems items <;> rfl

theorem read_item_entry (item : Value) (key text : String) (value : Value)
    (parts : item.items? = some [.text key, value]) (scalar : value.scalar? = some text) :
    readItem item = .ok [.entry key text] := by
  have written :=
    (read_scalar_eq_ok (ProjectionFault.unsupportedValue key) .overlong value text).mpr scalar
  have read : readPair [.text key, value] = .ok (.entry key text) := by
    cases value with
    | list items => cases scalar
    | tuple items => cases scalar
    | projection finished => cases scalar
    | _ => simp only [readPair, written, bind, Except.bind]
  rw [read_item_sequence item _ parts, read]
  rfl

theorem read_item_flagged (item : Value) (key text : String) (value flag : Value)
    (parts : item.items? = some [.text key, value, flag]) (scalar : value.scalar? = some text) :
    readItem item = .ok [.reference key text (isFollow flag)] := by
  have written :=
    (read_scalar_eq_ok (ProjectionFault.unsupportedValue key) .overlong value text).mpr scalar
  have read : readPair [.text key, value, flag] = .ok (.reference key text (isFollow flag)) := by
    cases value with
    | list items => cases scalar
    | tuple items => cases scalar
    | _ => simp only [readPair, written, bind, Except.bind]
  rw [read_item_sequence item _ parts, read]
  rfl

end Projection

namespace Step

theorem projection_edit_eq_map (input : Value) :
    projectionEdit? input =
      (Projection.readItems input.contents).toOption.map .addProjections := by
  ext edit
  simp only [projection_edit_eq_some, Projection.read_eq_ok]
  cases Projection.readItems input.contents <;> simp [Except.toOption, eq_comm]

end Step

namespace State

theorem projection_text_item (before : String) (items : List Projection) (item : Projection)
    (unnamed : ∀ name, item ≠ .field name) :
    projectionText before (items ++ [item]) =
      "\x7b" ++ Projection.renderAll (items ++ [item]) ++ "\x7d" := by
  apply projection_text_braced
  · simp
  · rintro ⟨name, single, _⟩
    rcases List.append_eq_singleton_iff.mp single with ⟨_, last⟩ | ⟨_, none⟩
    · exact unnamed name (List.singleton_inj.mp last)
    · cases none

theorem text_add_projection (state : State) (item other : Projection)
    (unnamed : ∀ name, item ≠ .field name) (unnamedToo : ∀ name, other ≠ .field name)
    (written : item.render = other.render) :
    (Edit.apply state (.addProjections [item])).text? =
      (Edit.apply state (.addProjections [other])).text? := by
  have body : Projection.renderAll (state.projections ++ [item]) =
      Projection.renderAll (state.projections ++ [other]) := by
    rw [Projection.renderAll, Projection.renderAll, List.map_append, List.map_append,
      List.map_singleton, List.map_singleton, written]
  simp only [text?, unlimitedText, Edit.apply, projection_text_item _ _ _ unnamed,
    projection_text_item _ _ _ unnamedToo, body]

theorem build_step_congr {Content : Type} (state : State) (input other : Value)
    (result : Except ProjectionFault Content) (item otherItem : Content → Projection)
    (reads : Projection.readItems input.contents = (fun content => [item content]) <$> result)
    (readsOther :
      Projection.readItems other.contents = (fun content => [otherItem content]) <$> result)
    (unnamed : ∀ content name, item content ≠ .field name)
    (unnamedToo : ∀ content name, otherItem content ≠ .field name)
    (written : ∀ content, (item content).render = (otherItem content).render) :
    (state.step ⟨.projection, input⟩).value.build.value =
      (state.step ⟨.projection, other⟩).value.build.value := by
  have edit : Step.edit? ⟨.projection, input⟩ = _ := Step.projection_edit_eq_map input
  have otherEdit : Step.edit? ⟨.projection, other⟩ = _ := Step.projection_edit_eq_map other
  rw [reads] at edit
  rw [readsOther] at otherEdit
  cases result with
  | error fault =>
      rw [step_of_rejected state _ (by rw [Step.isRejected, edit]; rfl),
        step_of_rejected state _ (by rw [Step.isRejected, otherEdit]; rfl)]
  | ok content =>
      rw [step_of_edit state _ _ edit, step_of_edit state _ _ otherEdit]
      apply Outcome.build_state_congr
      exact state.text_add_projection _ _ (unnamed content) (unnamedToo content) (written content)

end State

namespace Projection

open Value

theorem read_items_contents_singleton (input item : Value) (sequence : input.items? = some [item]) :
    readItems input.contents = readItem item := by
  rw [contents, sequence]
  exact read_items_singleton item

theorem build_object_eq_build_reference (state : State) (name : String)
    (value flag pair objects references : Value) (items : List Value) (entries : Entries)
    (sequence : value.items? = some items) (keyed : entries.IsKeyed)
    (fields : entries.fields = [(name, value)])
    (joined : joinerOf entries = .ok (referenceJoiner (isFollow flag)))
    (parts : pair.items? = some [.text name, value, flag])
    (inObjects : objects.items? = some [.map entries])
    (inReferences : references.items? = some [pair]) :
    (state.step ⟨.projection, objects⟩).value.build.value =
      (state.step ⟨.projection, references⟩).value.build.value := by
  apply state.build_step_congr objects references (readItems items)
    (.object name · (referenceJoiner (isFollow flag))) (.referenceOf name · (isFollow flag))
  · rw [read_items_contents_singleton objects _ inObjects,
      read_item_object entries name _ value items keyed fields joined sequence]
  · rw [read_items_contents_singleton references _ inReferences,
      read_item_reference pair name value flag items parts sequence]
  · simp
  · simp
  · exact fun _ => rfl

/-- A sub-projection can be spelled in two ways. A map with one name over a list, joined as
references are followed, builds what the same name and list build as a pair that is followed;
without a joiner it builds what they build as a pair with any other third part. Both are accepted,
with the same text, or both are rejected, with the same message, whatever was asked for before. A
scalar behind a key builds the same with and without a third part and as a finished entry over a
field of its text, and it builds a text whenever the state that it is added to has one. -/
theorem subprojections_build_alike :
    (∀ (state : State) (name : String) (value pair objects references : Value)
      (items : List Value) (entries : Entries), value.items? = some items →
      entries.IsKeyed → entries.fields = [(name, value)] →
      entries.marked? .join = some (.text "->") →
      pair.items? = some [.text name, value, .marker .follow] →
      objects.items? = some [.map entries] → references.items? = some [pair] →
      (state.step ⟨.projection, objects⟩).value.build.value =
        (state.step ⟨.projection, references⟩).value.build.value) ∧
    (∀ (state : State) (name : String) (value flag pair objects references : Value)
      (items : List Value) (entries : Entries), value.items? = some items →
      entries.IsKeyed → entries.fields = [(name, value)] → entries.marked? .join = none →
      flag ≠ .marker .follow → pair.items? = some [.text name, value, flag] →
      objects.items? = some [.map entries] → references.items? = some [pair] →
      (state.step ⟨.projection, objects⟩).value.build.value =
        (state.step ⟨.projection, references⟩).value.build.value) ∧
    ∀ (state : State) (key text : String) (value flag pair triple first second third : Value),
      value.scalar? = some text → flag ≠ .marker .follow →
      pair.items? = some [.text key, value] → triple.items? = some [.text key, value, flag] →
      first.items? = some [pair] → second.items? = some [triple] →
      third.contents = [.projection (.entryOf key (.field text))] →
      ∃ result, (state.step ⟨.projection, first⟩).value.build.value = result ∧
        (state.step ⟨.projection, second⟩).value.build.value = result ∧
        (state.step ⟨.projection, third⟩).value.build.value = result ∧
        ((∃ built, result = .ok built) ↔ state.HasText) := by
  refine ⟨?_, ?_, ?_⟩
  · intro state name value pair objects references items entries sequence keyed fields joiner parts
      inObjects inReferences
    have joined : joinerOf entries = .ok followJoiner := by rw [joinerOf, joiner]; rfl
    exact build_object_eq_build_reference state name value (.marker .follow) pair objects references
      items entries sequence keyed fields joined parts inObjects inReferences
  · intro state name value flag pair objects references items entries sequence keyed fields joiner
      other parts inObjects inReferences
    have joined : joinerOf entries = .ok (referenceJoiner (isFollow flag)) := by
      rw [joinerOf, joiner, is_follow_eq_false flag other]
      rfl
    exact build_object_eq_build_reference state name value flag pair objects references items
      entries sequence keyed fields joined parts inObjects inReferences
  · intro state key text value flag pair triple first second third scalar other parts flagged
      inFirst inSecond inThird
    have plain : readItems first.contents = .ok [.entry key text] := by
      rw [read_items_contents_singleton first _ inFirst,
        read_item_entry pair key text value parts scalar]
    have marked : readItems second.contents = .ok [.reference key text false] := by
      rw [read_items_contents_singleton second _ inSecond,
        read_item_flagged triple key text value flag flagged scalar, is_follow_eq_false flag other]
    have finished : readItems third.contents = .ok [.entryOf key (.field text)] := by
      rw [inThird]
      rfl
    have accepted : (state.step ⟨.projection, first⟩).value =
        .state (Edit.apply state (.addProjections [.entry key text])) :=
      state.step_of_edit ⟨.projection, first⟩ _
        ((Step.projection_edit_eq_some first _).mpr ⟨_, (read_eq_ok first _).mpr plain, rfl⟩)
    refine ⟨_, rfl, ?_, ?_, ?_⟩
    · exact (state.build_step_congr first second (.ok ()) (fun _ => .entry key text)
        (fun _ => .reference key text false) plain marked (by simp) (by simp) fun _ => rfl).symm
    · exact (state.build_step_congr first third (.ok ()) (fun _ => .entry key text)
        (fun _ => .entryOf key (.field text)) plain finished (by simp) (by simp) fun _ => rfl).symm
    · rw [accepted, Outcome.exists_build_state_iff]
      rfl

/-- An author with a nested list, followed and not, behind a filter and a field; a count as a pair,
with a third part and as a finished entry. A list with something in it that is no item is rejected
in both spellings. -/
theorem subprojections_build_alike_author :
    let state : State := { filters := [.raw "defined(slug)"], projections := [.field "title"] }
    let author : String := "author"
    let items : Value :=
      .tuple [.text "name", .map [(.text "image", .list [.text "url", .list [.text "a", .int 1]])]]
    let refused : Value := .list [.text "name", .null]
    let builds : Value → Except BuildFault String := fun item =>
      (state.step ⟨.projection, .list [item]⟩).value.build.value
    builds (.map [(.text author, items), (.marker .join, .text "->")]) =
        builds (.list [.text author, items, .marker .follow]) ∧
      builds (.map [(.text author, items)]) = builds (.list [.text author, items, .marker .nest]) ∧
      builds (.map [(.text author, refused)]) = builds (.tuple [.text author, refused, .null]) ∧
      (∃ rejection, builds (.map [(.text author, refused)]) = .error (.rejected rejection)) ∧
      ∃ built, builds (.list [.text "count", .int 3]) = .ok built ∧
        builds (.list [.text "count", .int 3, .bool true]) = .ok built ∧
        builds (.projection (.entryOf "count" (.field "3"))) = .ok built := by
  intro state author items refused builds
  have keyed : ∀ value, Entries.IsKeyed [(.text author, value)] := by
    simp [Entries.IsKeyed]
  have keyedToo : Entries.IsKeyed [(.text author, items), (.marker .join, .text "->")] := by
    simp [Entries.IsKeyed, Value.isMarker]
  refine ⟨?_, ?_, ?_, ⟨_, rfl⟩, ?_⟩
  · exact subprojections_build_alike.1 state author items _ _ _ _ _ rfl keyedToo rfl rfl rfl rfl rfl
  · exact subprojections_build_alike.2.1 state author items (.marker .nest) _ _ _ _ _ rfl
      (keyed items) rfl rfl (by simp) rfl rfl rfl
  · exact subprojections_build_alike.2.1 state author refused .null _ _ _ _ _ rfl
      (keyed refused) rfl rfl (by simp) rfl rfl rfl
  · obtain ⟨_, rfl, second, third, written⟩ := subprojections_build_alike.2.2 state "count" "3"
      (.int 3) (.bool true) (.list [.text "count", .int 3])
      (.list [.text "count", .int 3, .bool true]) (.list [.list [.text "count", .int 3]])
      (.list [.list [.text "count", .int 3, .bool true]])
      (.list [.projection (.entryOf "count" (.field "3"))]) rfl (by simp) rfl rfl rfl rfl rfl
    obtain ⟨built, first⟩ := written.mpr fun slice limited => by cases limited
    exact ⟨built, first, second.trans first, third.trans first⟩

end Projection

end GroqQuery
