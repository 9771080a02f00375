import GroqQuery.Construction

/-!
What finished values are made of. A sequence is accepted exactly when it wraps items of one sort,
and a group is never built without members or with a joiner other than the two there are.
-/

namespace GroqQuery

namespace Fields

variable {Content : Type}

theorem check_eq_ok (name : String) (result : Except Flaw Content) (content : Content) :
    check name result = .ok content ↔ result = .ok content := by
  cases result with
  | error flaw => exact ⟨nofun, nofun⟩
  | ok found =>
      change (Except.ok found : Checked Content) = .ok content ↔ _
      simp

theorem required_eq_ok (fields : Fields) (name : String) (read : Value → Except Flaw Content)
    (content : Content) :
    fields.required name read = .ok content ↔
      ∃ value, fields.get? name = some value ∧ read value = .ok content := by
  rw [required]
  cases fields.get? name with
  | none => simp
  | some value => simp [check_eq_ok]

theorem optional_eq_ok (fields : Fields) (name : String) (read : Value → Except Flaw Content)
    (default content : Content) :
    fields.optional name read default = .ok content ↔
      fields.get? name = none ∧ default = content ∨
        ∃ value, fields.get? name = some value ∧ read value = .ok content := by
  rw [optional]
  cases fields.get? name with
  | none => simp
  | some value => simp [check_eq_ok]

end Fields

namespace Value

theorem map_m_eq_some {Item : Type} {item? : Value → Option Item} {wrap : Item → Value}
    (inverse : ∀ value item, item? value = some item ↔ value = wrap item)
    (values : List Value) (items : List Item) :
    values.mapM item? = some items ↔ values = items.map wrap := by
  induction values generalizing items with
  | nil => cases items <;> simp
  | cons value values induction =>
      cases items <;> simp [List.mapM_cons, Option.bind_eq_some_iff, inverse, induction]

theorem as_sequence_eq_ok {Item : Type} {item? : Value → Option Item} {wrap : Item → Value}
    (inverse : ∀ value item, item? value = some item ↔ value = wrap item)
    (value : Value) (items : List Item) :
    value.asSequence item? = .ok items ↔ value.items? = some (items.map wrap) := by
  rw [asSequence]
  cases value.items? with
  | none => simp
  | some values =>
      rw [Option.some.injEq, ← map_m_eq_some inverse]
      dsimp only
      cases values.mapM item? <;> simp

theorem filter_eq_some (value : Value) (clause : Filter) :
    value.filter? = some clause ↔ value = .filter clause := by
  cases value <;> simp [filter?]

theorem text_eq_some (value : Value) (content : String) :
    value.text? = some content ↔ value = .text content := by
  cases value <;> simp [text?]

theorem as_members_eq_ok (value : Value) (first : Filter) (others : List Filter) :
    value.asMembers = .ok (first, others) ↔
      value.items? = some ((first :: others).map .filter) := by
  rw [← as_sequence_eq_ok filter_eq_some, asMembers]
  rcases value.asSequence filter? with flaw | ⟨⟩ | ⟨member, members⟩ <;>
    simp [bind, Except.bind]

theorem as_joiner_eq_ok (value : Value) (joiner : Joiner) :
    value.asJoiner = .ok joiner ↔ value = .text joiner.text := by
  constructor
  · intro read
    cases value with
    | text name =>
        rw [asJoiner] at read
        cases found : Joiner.ofText? name with
        | none => simp [found] at read
        | some known =>
            have spelled : name = known.text := (Joiner.of_text_eq_some name known).mp found
            simp only [found, Except.ok.injEq] at read
            rw [spelled, read]
    | _ => simp [asJoiner] at read
  · intro named
    have known := (Joiner.of_text_eq_some joiner.text joiner).mpr rfl
    simp only [named, asJoiner, known]

end Value

namespace Shape

/-- A group is built from at least one member, and with `&&` or `||` if a joiner is given. -/
theorem build_group (fields : Fields) (value : Value)
    (built : Shape.group.build fields = .ok value) :
    ∃ first others joiner negated, value = .filter (.group first others joiner negated) ∧
      (fields.get? "children").bind Value.items? = some ((first :: others).map .filter) ∧
      (fields.get? "join" = none ∧ joiner = .either ∨
        fields.get? "join" = some (.text joiner.text)) := by
  simp only [build] at built
  generalize checked : Checked.both (fields.optional "kind" (Value.asKind .group) ()) _ = result
    at built
  cases result with
  | error faults => cases built
  | ok record =>
      obtain ⟨kind, ⟨first, others⟩, joiner, negated⟩ := record
      cases built
      obtain ⟨_, checked⟩ := Checked.both_eq_ok.mp checked
      obtain ⟨members, checked⟩ := Checked.both_eq_ok.mp checked
      obtain ⟨joined, _⟩ := Checked.both_eq_ok.mp checked
      refine ⟨first, others, joiner, negated, rfl, ?_, ?_⟩
      · obtain ⟨children, given, read⟩ := (Fields.required_eq_ok _ _ _ _).mp members
        rw [given]
        exact (Value.as_members_eq_ok children first others).mp read
      · rcases (Fields.optional_eq_ok _ _ _ _ _).mp joined with
          ⟨absent, default⟩ | ⟨name, given, read⟩
        · exact .inl ⟨absent, default.symm⟩
        · rw [given, (Value.as_joiner_eq_ok name joiner).mp read]
          exact .inr rfl

end Shape

end GroqQuery
