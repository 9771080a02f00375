import GroqQuery.Proofs.Construction
import GroqQuery.Query.Edit
import Mathlib.Tactic.SplitIfs

/-!
What the inputs of steps say. For each part of a query, the inputs that are accepted for it are
described without the readers of inputs, together with the edits they stand for.
-/

namespace GroqQuery

namespace Slice

/-- A slice that holds something and starts no earlier than the results do. -/
def IsProper (slice : Slice) : Prop := 0 ≤ slice.offset ∧ 0 < slice.count

end Slice

namespace Value

def GivesOrder (input : Value) (terms : List String) : Prop :=
  (∃ term, input = .text term ∧ terms = [term]) ∨ input.items? = some (terms.map .text)

def GivesSlice (input : Value) : Slice → Prop
  | .first count => input = .int count
  | .window offset count => input.items? = some [.int offset, .int count]

def isNoLimit : Value → Bool
  | .int 0 => true
  | .list [.int 0, .int 0] => true
  | .tuple [.int 0, .int 0] => true
  | _ => false

theorem is_no_limit_iff (input : Value) :
    input.isNoLimit = true ↔
      input.GivesSlice (.first 0) ∨ input.GivesSlice (.window 0 0) := by
  constructor
  · intro unlimited
    unfold isNoLimit at unlimited
    split at unlimited
    · exact .inl rfl
    · exact .inr rfl
    · exact .inr rfl
    · cases unlimited
  · rintro (rfl | window)
    · rfl
    · cases input with
      | list items => cases window; rfl
      | tuple items => cases window; rfl
      | _ => cases window

theorem GivesOrder.unique (input : Value) (left right : List String)
    (givesLeft : input.GivesOrder left) (givesRight : input.GivesOrder right) : left = right := by
  rcases givesLeft with ⟨term, rfl, rfl⟩ | leftItems <;>
    rcases givesRight with ⟨other, same, rfl⟩ | rightItems
  · cases same
    rfl
  · cases rightItems
  · rw [same] at leftItems
    cases leftItems
  · rw [leftItems, Option.some.injEq] at rightItems
    exact (List.map_inj_right fun _ _ => Value.text.inj).mp rightItems

theorem GivesSlice.unique (input : Value) (left right : Slice)
    (givesLeft : input.GivesSlice left) (givesRight : input.GivesSlice right) : left = right := by
  cases left with
  | first count =>
      cases givesLeft
      cases right with
      | first other => cases givesRight; rfl
      | window offset other => cases givesRight
  | window offset count =>
      cases right with
      | first other => cases givesRight; cases givesLeft
      | window offset' other =>
          simp only [GivesSlice] at givesLeft givesRight
          rw [givesLeft] at givesRight
          cases givesRight
          rfl

theorem GivesSlice.not_is_no_limit (input : Value) (slice : Slice) (given : input.GivesSlice slice)
    (proper : slice.IsProper) : input.isNoLimit = false := by
  rw [Bool.eq_false_iff, ne_eq, is_no_limit_iff]
  rintro (zero | zero)
  · cases GivesSlice.unique input slice _ given zero
    exact Int.lt_irrefl 0 proper.2
  · cases GivesSlice.unique input slice _ given zero
    exact Int.lt_irrefl 0 proper.2

end Value

namespace Step

theorem filter_edit_eq_some (input : Value) (edit : Edit) :
    filterEdit? input = some edit ↔
      ∃ added, Filter.read input = .ok added ∧ edit = .addFilters added := by
  rw [filterEdit?]
  cases Filter.read input with
  | ok added => simp [eq_comm]
  | error fault => simp

theorem projection_edit_eq_some (input : Value) (edit : Edit) :
    projectionEdit? input = some edit ↔
      ∃ added, Projection.read input = .ok added ∧ edit = .addProjections added := by
  rw [projectionEdit?]
  cases Projection.read input with
  | ok added => simp [eq_comm]
  | error fault => simp

theorem projection_edit_congr (input other : Value)
    (same : ∀ items, Projection.read input = .ok items ↔ Projection.read other = .ok items) :
    projectionEdit? input = projectionEdit? other := by
  ext edit
  simp only [projection_edit_eq_some, same]

theorem qualifier_edit_eq_some (input : Value) (edit : Edit) :
    qualifierEdit? input = some edit ↔
      ∃ qualifier, input = .text qualifier ∧ edit = .setQualifier qualifier := by
  cases input <;> simp [qualifierEdit?, eq_comm]

theorem order_edit_eq_some (input : Value) (edit : Edit) :
    orderEdit? input = some edit ↔
      ∃ terms, input.GivesOrder terms ∧ edit = .setOrder terms := by
  have sequence : ∀ items : List Value,
      ((items.mapM Value.text?).bind fun terms => some (Edit.setOrder terms)) = some edit ↔
        ∃ terms : List String, items = terms.map .text ∧ edit = .setOrder terms := by
    intro items
    simp only [Option.bind_eq_some_iff, Value.map_m_eq_some Value.text_eq_some, Option.some.injEq]
    simp only [eq_comm]
  cases input with
  | text term => simp [orderEdit?, Value.GivesOrder, Value.items?, eq_comm]
  | list items => simpa [orderEdit?, Value.GivesOrder, Value.items?] using sequence items
  | tuple items => simpa [orderEdit?, Value.GivesOrder, Value.items?] using sequence items
  | _ => simp [orderEdit?, Value.GivesOrder, Value.items?]

theorem limit_edit_window (input : Value) (offset count : Int)
    (given : input.GivesSlice (.window offset count)) :
    limitEdit? input =
      if offset = 0 ∧ count = 0 then some .keep
      else if 0 ≤ offset ∧ 0 < count then some (.setLimit (.window offset count))
      else none := by
  cases input with
  | list items => cases given; rfl
  | tuple items => cases given; rfl
  | _ => cases given

theorem limit_edit_eq_some (input : Value) (edit : Edit) :
    limitEdit? input = some edit ↔
      input.isNoLimit = true ∧ edit = .keep ∨
        ∃ slice : Slice, input.GivesSlice slice ∧ slice.IsProper ∧ edit = .setLimit slice := by
  rw [Value.is_no_limit_iff]
  constructor
  · intro accepted
    unfold limitEdit? at accepted
    split at accepted
    next count =>
      split_ifs at accepted with zero positive
      · cases accepted
        exact .inl ⟨.inl (congrArg Value.int zero), rfl⟩
      · cases accepted
        exact .inr ⟨.first count, rfl, ⟨Int.le_refl 0, positive⟩, rfl⟩
    next =>
      split at accepted
      next offset count given =>
        split_ifs at accepted with zero proper
        · cases accepted
          obtain ⟨rfl, rfl⟩ := zero
          exact .inl ⟨.inr given, rfl⟩
        · cases accepted
          exact .inr ⟨.window offset count, given, proper, rfl⟩
      next => cases accepted
  · rintro (⟨rfl | window, rfl⟩ | ⟨slice, given, proper, rfl⟩)
    · rfl
    · exact limit_edit_window input 0 0 window
    · cases slice with
      | first count =>
          cases given
          have positive : 0 < count := proper.2
          simp [limitEdit?, positive, Int.ne_of_gt positive]
      | window offset count =>
          have positive : 0 < count := proper.2
          have forward : 0 ≤ offset := proper.1
          rw [limit_edit_window input offset count given]
          simp [forward, positive, Int.ne_of_gt positive]

theorem is_proper_of_edit (step : Step) (slice : Slice)
    (reads : step.edit? = some (.setLimit slice)) : slice.IsProper := by
  obtain ⟨part, input⟩ := step
  cases part with
  | filter =>
      obtain ⟨_, _, other⟩ := (filter_edit_eq_some input _).mp reads
      cases other
  | projection =>
      obtain ⟨_, _, other⟩ := (projection_edit_eq_some input _).mp reads
      cases other
  | qualifier =>
      obtain ⟨_, _, other⟩ := (qualifier_edit_eq_some input _).mp reads
      cases other
  | order =>
      obtain ⟨_, _, other⟩ := (order_edit_eq_some input _).mp reads
      cases other
  | limit =>
      rcases (limit_edit_eq_some input _).mp reads with ⟨_, other⟩ | ⟨_, _, proper, same⟩
      · cases other
      · cases same
        exact proper

end Step

end GroqQuery
