import GroqQuery.Proofs.Decimal.Whole
import GroqQuery.Proofs.Query.Inputs
import GroqQuery.Proofs.Query.Run

/-!
When a query has a text. Everything in front of the slice can be written, and the slice can be where
both of its numbers have numerals.
-/

namespace GroqQuery

namespace Slice

def HasNumerals (slice : Slice) : Prop :=
  HasNumeral slice.offset ∧ HasNumeral (slice.offset + slice.count)

theorem render_eq_some_iff (slice : Slice) (text : String) :
    slice.render? = some text ↔ slice.HasNumerals ∧
      " [" ++ toString slice.offset ++ "..." ++ toString (slice.offset + slice.count) ++ "]" =
        text := by
  unfold render? HasNumerals
  by_cases first : HasNumeral slice.offset
  · rw [numeral_of_short _ first]
    by_cases stop : HasNumeral (slice.offset + slice.count)
    · simp [numeral_of_short _ stop, first, stop]
    · simp [(numeral_eq_none_iff _).mpr stop, stop]
  · simp [(numeral_eq_none_iff _).mpr first, first]

end Slice

namespace State

/-- Whether the text of a state can be written, whatever else is in it. -/
def HasText (state : State) : Prop := ∀ slice, state.limit = some slice → slice.HasNumerals

theorem text_eq_some_iff (state : State) (text : String) :
    state.text? = some text ↔
      ∃ limit, limitText? state.limit = some limit ∧ state.unlimitedText ++ limit = text := by
  unfold text?
  cases limitText? state.limit <;> simp

theorem exists_limit_text_iff (state : State) :
    (∃ limit, limitText? state.limit = some limit) ↔ state.HasText := by
  unfold HasText
  cases state.limit with
  | none => simp [limitText?]
  | some slice => simp [limitText?, Slice.render_eq_some_iff]

theorem exists_text_iff (state : State) : (∃ text, state.text? = some text) ↔ state.HasText := by
  rw [← exists_limit_text_iff]
  constructor
  · intro written
    obtain ⟨text, written⟩ := written
    obtain ⟨limit, limited, _⟩ := (text_eq_some_iff state text).mp written
    exact ⟨limit, limited⟩
  · intro written
    obtain ⟨limit, limited⟩ := written
    exact ⟨_, (text_eq_some_iff state _).mpr ⟨limit, limited, rfl⟩⟩

theorem text_of_not_has_text (state : State) (without : ¬state.HasText) : state.text? = none := by
  cases found : state.text? with
  | none => rfl
  | some text => exact absurd ((exists_text_iff state).mp ⟨text, found⟩) without

end State

namespace Outcome

theorem build_state (state : State) :
    (Outcome.build (.state state)).value =
      match state.text? with
      | some text => .ok text
      | none => .error .overlong := by
  change state.build.value = _
  unfold State.build
  cases state.text? <;> rfl

theorem build_state_eq_ok_iff (state : State) (text : String) :
    (Outcome.build (.state state)).value = .ok text ↔ state.text? = some text := by
  rw [build_state]
  cases state.text? <;> simp

theorem build_state_congr (left right : State) (same : left.text? = right.text?) :
    (Outcome.build (.state left)).value = (Outcome.build (.state right)).value := by
  rw [build_state, build_state, same]

theorem exists_build_state_iff (state : State) :
    (∃ text, (Outcome.build (.state state)).value = .ok text) ↔ state.HasText := by
  simp only [build_state_eq_ok_iff, State.exists_text_iff]

theorem build_state_of_not_has_text (state : State) (without : ¬state.HasText) :
    (Outcome.build (.state state)).value = .error .overlong := by
  rw [build_state, state.text_of_not_has_text without]

/-- Nothing looks at the size of a window before it is written. -/
theorem step_window (state : State) (offset count : Int) (forward : 0 ≤ offset)
    (positive : 0 < count) :
    (Outcome.step (.state state) ⟨.limit, .tuple [.int offset, .int count]⟩).value =
      .state { state with limit := some (.window offset count) } := by
  apply State.step_of_edit state _ (.setLimit (.window offset count))
  exact (Step.limit_edit_eq_some (.tuple [.int offset, .int count]) _).mpr
    (.inr ⟨.window offset count, rfl, ⟨forward, positive⟩, rfl⟩)

theorem not_has_text_window (state : State) (offset count : Int)
    (long : ¬HasNumeral (offset + count)) :
    ¬({ state with limit := some (.window offset count) } : State).HasText := by
  intro hasText
  exact long (hasText _ rfl).2

theorem build_or_fail_value (outcome : Outcome) :
    outcome.buildOrFail.value = outcome.build.value.mapError BuildFault.raised := rfl

end Outcome

end GroqQuery
