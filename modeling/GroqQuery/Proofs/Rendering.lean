import GroqQuery.Proofs.Numbers
import GroqQuery.Rendering

/-!
Which sequences of values have a text. Finished clauses have one, and so have finished items; in any
other sequence the first value from the left that does not belong is named by the failure.
-/

namespace GroqQuery

namespace Value

def IsFilter (value : Value) : Prop := ∃ clause, value = .filter clause

def IsProjection (value : Value) : Prop := ∃ item, value = .projection item

end Value

/-- A failure to render a value is raised with it, unless the value cannot be shown. -/
theorem raised_malformed (message : String) (found : Value) :
    (malformed message found).raised =
      if found.isPrintable then .failure (malformed message found) else .overlong := by
  have shown : (malformed message found).text?.isSome = found.isPrintable := by
    simp only [Failure.text?, malformed, Failure.detailTexts?, Value.display?, Value.isPrintable]
    cases found.inspect? with
    | none => rfl
    | some shown => by_cases empty : message = "" <;> simp [empty]
  rw [Failure.raised, shown]

/-- A rendering of sequences that takes finished values and nothing else, whatever is in them. -/
structure RendersExactly (IsFinished : Value → Prop)
    (renderValues : List Value → Except Raised String) : Prop where
  renders_iff : ∀ values,
    (∃ text, renderValues values = .ok text) ↔ ∀ value ∈ values, IsFinished value
  names_first : ∀ values, (¬∀ value ∈ values, IsFinished value) →
    ∃ before found after, values = before ++ found :: after ∧
      (∀ value ∈ before, IsFinished value) ∧ ¬IsFinished found ∧
      (found.IsShort → ∃ failure, renderValues values = .error (.failure failure) ∧
        failure.kind = .rendering ∧ failure.kind.name = "CompilerError" ∧
        failure.details = [(.text "node", found)]) ∧
      (¬found.IsShort → renderValues values = .error .overlong)

section

variable {IsFinished : Value → Prop} {renderValue : Value → Except Raised String}

theorem map_m_render_value (raised : Value → Raised)
    (finished : ∀ value, IsFinished value → ∃ text, renderValue value = .ok text)
    (unfinished : ∀ value, ¬IsFinished value → renderValue value = .error (raised value))
    (values : List Value) :
    (∀ value ∈ values, IsFinished value) ∧ (∃ texts, values.mapM renderValue = .ok texts) ∨
      ∃ before found after, values = before ++ found :: after ∧
        (∀ value ∈ before, IsFinished value) ∧ ¬IsFinished found ∧
        values.mapM renderValue = .error (raised found) := by
  induction values with
  | nil => exact .inl ⟨by simp, [], rfl⟩
  | cons value values induction =>
      by_cases belongs : IsFinished value
      · obtain ⟨text, rendered⟩ := finished value belongs
        rcases induction with ⟨all, texts, others⟩ | ⟨before, found, after, rfl, all, stops, failed⟩
        · refine .inl ⟨List.forall_mem_cons.mpr ⟨belongs, all⟩, text :: texts, ?_⟩
          rw [List.mapM_cons, rendered, others]
          rfl
        · refine .inr ⟨value :: before, found, after, rfl,
            List.forall_mem_cons.mpr ⟨belongs, all⟩, stops, ?_⟩
          rw [List.mapM_cons, rendered, failed]
          rfl
      · refine .inr ⟨[], value, values, rfl, by simp, belongs, ?_⟩
        rw [List.mapM_cons, unfinished value belongs]
        rfl

theorem renders_exactly_of_each (message : String)
    (finished : ∀ value, IsFinished value → ∃ text, renderValue value = .ok text)
    (unfinished : ∀ value, ¬IsFinished value →
      renderValue value = .error (malformed message value).raised)
    (join : List String → String) :
    RendersExactly IsFinished fun values => join <$> values.mapM renderValue := by
  have each :=
    map_m_render_value (fun value => (malformed message value).raised) finished unfinished
  constructor
  · intro values
    rcases each values with ⟨all, texts, rendered⟩ | ⟨before, found, after, rfl, _, stops, failed⟩
    · exact ⟨fun _ => all, fun _ => ⟨join texts, by rw [rendered]; rfl⟩⟩
    · constructor
      · rintro ⟨text, rendered⟩
        rw [failed] at rendered
        cases rendered
      · intro all
        exact absurd (all found (by simp)) stops
  · intro values notAll
    rcases each values with ⟨all, _⟩ | ⟨before, found, after, same, all, stops, failed⟩
    · exact absurd all notAll
    · refine ⟨before, found, after, same, all, stops, ?_, ?_⟩
      · intro short
        rw [raised_malformed, if_pos (found.is_printable_iff.mpr short)] at failed
        exact ⟨malformed message found, by rw [failed]; rfl, rfl, rfl, rfl⟩
      · intro long
        rw [raised_malformed, if_neg (found.is_printable_iff.not.mpr long)] at failed
        rw [failed]
        rfl

end

theorem Filter.renders_exactly : RendersExactly Value.IsFilter Filter.renderValues := by
  change RendersExactly Value.IsFilter fun values =>
    Joiner.both.separator.intercalate <$> values.mapM Filter.renderValue
  apply renders_exactly_of_each "Invalid filter node"
  · rintro _ ⟨clause, rfl⟩
    exact ⟨clause.render, rfl⟩
  · intro value other
    cases value with
    | filter clause => exact absurd ⟨clause, rfl⟩ other
    | _ => rfl

theorem Projection.renders_exactly :
    RendersExactly Value.IsProjection Projection.renderValues := by
  change RendersExactly Value.IsProjection fun values =>
    Projection.separator.intercalate <$> values.mapM Projection.renderValue
  apply renders_exactly_of_each "Invalid projection node"
  · rintro _ ⟨item, rfl⟩
    exact ⟨item.render, rfl⟩
  · intro value other
    cases value with
    | projection item => exact absurd ⟨item, rfl⟩ other
    | _ => rfl

theorem Filter.render_values_finished (filters : List Filter) :
    Filter.renderValues (filters.map .filter) = .ok (Filter.renderAll filters) := by
  have texts : (filters.map Value.filter).mapM Filter.renderValue =
      .ok (filters.map Filter.render) := by
    rw [List.mapM_map]
    exact List.mapM_pure
  rw [Filter.renderValues, texts]
  rfl

theorem Projection.render_values_finished (items : List Projection) :
    Projection.renderValues (items.map .projection) = .ok (Projection.renderAll items) := by
  have texts : (items.map Value.projection).mapM Projection.renderValue =
      .ok (items.map Projection.render) := by
    rw [List.mapM_map]
    exact List.mapM_pure
  rw [Projection.renderValues, texts]
  rfl

end GroqQuery
