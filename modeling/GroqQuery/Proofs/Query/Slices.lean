import GroqQuery.Proofs.Query.ClosedForm
import GroqQuery.Proofs.Query.Reachable
import GroqQuery.Proofs.Reading
import GroqQuery.Proofs.Text.Numerals

/-!
Slices in built texts. A slice is written with the two numerals that it starts and ends at, which
are as far apart as results were asked for, so that the text tells which results are meant.
-/

namespace GroqQuery

open Text

namespace Slice

/-- Which results a slice lets through. A count alone is a window that starts at zero. -/
def bounds (slice : Slice) : Int × Int := (slice.offset, slice.count)

theorem render_of_bounds (left right : Slice) (same : left.bounds = right.bounds) :
    left.render? = right.render? := by
  obtain ⟨offset, count⟩ := Prod.ext_iff.mp same
  change left.offset = right.offset at offset
  change left.count = right.count at count
  rw [render?, render?, offset, count]

theorem IsProper.ends (slice : Slice) (proper : slice.IsProper) :
    ∃ first stop : Nat, first < stop ∧ (first : Int) = slice.offset ∧
      (stop : Int) - first = slice.count := by
  obtain ⟨forward, positive⟩ := proper
  obtain ⟨first, offset⟩ := Int.eq_ofNat_of_zero_le forward
  obtain ⟨stop, ending⟩ := Int.eq_ofNat_of_zero_le
    (Int.add_nonneg forward (Int.le_of_lt positive))
  exact ⟨first, stop, by omega, offset.symm, by omega⟩

section Ends

variable (slice : Slice) (first stop : Nat) (order : first < stop)
  (offset : (first : Int) = slice.offset) (count : (stop : Int) - first = slice.count)

include order offset count

/-- The end is the larger of the two numbers, so it is the one that may have no numeral. -/
theorem has_numerals_iff : slice.HasNumerals ↔ HasNumeral stop := by
  have ending : slice.offset + slice.count = stop := by omega
  rw [HasNumerals, ending, ← offset]
  constructor
  · intro both
    exact both.2
  · intro short
    exact ⟨Nat.lt_trans order short, short⟩

theorem render_eq_ends (text : String) :
    slice.render? = some text ↔ HasNumeral stop ∧
      " [" ++ Nat.repr first ++ "..." ++ Nat.repr stop ++ "]" = text := by
  have ending : slice.offset + slice.count = stop := by omega
  rw [render_eq_some_iff, has_numerals_iff slice first stop order offset count, ending, ← offset]
  rfl

end Ends

theorem take_while_repr (number : Nat) (mark : Char) (rest : List Char)
    (stops : mark.isDigit = false) :
    ((Nat.repr number).toList ++ mark :: rest).takeWhile Char.isDigit =
      (Nat.repr number).toList := by
  rw [List.takeWhile_append_of_pos (is_numeral_repr number).digits,
    List.takeWhile_cons_of_neg (by simp [stops]), List.append_nil]

theorem repr_append_inj (left right : Nat) (mark : Char) (rest others : List Char)
    (stops : mark.isDigit = false)
    (same : (Nat.repr left).toList ++ mark :: rest = (Nat.repr right).toList ++ mark :: others) :
    left = right ∧ rest = others := by
  have numerals : (Nat.repr left).toList = (Nat.repr right).toList := by
    rw [← take_while_repr left mark rest stops, same, take_while_repr right mark others stops]
  have numbers : left = right := by
    rw [← (is_numeral_repr left).denotes, numerals, (is_numeral_repr right).denotes]
  rw [numerals, List.append_cancel_left_eq, List.cons.injEq] at same
  exact ⟨numbers, same.2⟩

theorem bounds_of_render (left right : Slice) (properLeft : left.IsProper)
    (properRight : right.IsProper) (text : String) (written : left.render? = some text)
    (writtenToo : right.render? = some text) : left.bounds = right.bounds := by
  obtain ⟨first, stop, order, offset, count⟩ := properLeft.ends
  obtain ⟨other, ending, order', offset', count'⟩ := properRight.ends
  obtain ⟨_, rfl⟩ := (render_eq_ends left first stop order offset count text).mp written
  obtain ⟨_, same⟩ := (render_eq_ends right other ending order' offset' count' _).mp writtenToo
  rw [← String.toList_inj] at same
  have chars : (Nat.repr other).toList ++ '.' :: '.' :: '.' :: ((Nat.repr ending).toList ++ [']']) =
      (Nat.repr first).toList ++ '.' :: '.' :: '.' :: ((Nat.repr stop).toList ++ [']']) := by
    simpa using same
  obtain ⟨rfl, behind⟩ := repr_append_inj other first '.' _ _ rfl chars
  have numerals : (Nat.repr ending).toList ++ ']' :: [] = (Nat.repr stop).toList ++ ']' :: [] := by
    simpa using behind
  obtain ⟨rfl, _⟩ := repr_append_inj ending stop ']' _ _ rfl numerals
  exact Prod.ext (offset.symm.trans offset') (count.symm.trans count')

theorem render_ne_empty (slice : Slice) : slice.render? ≠ some "" := by
  intro written
  have parts := ((render_eq_some_iff slice "").mp written).2
  simp at parts

end Slice

namespace State

theorem limit_text_of_bounds (left right : Option Slice)
    (same : left.map Slice.bounds = right.map Slice.bounds) :
    limitText? left = limitText? right := by
  cases left with
  | none =>
      rw [Option.map_eq_none_iff.mp same.symm]
  | some slice =>
      obtain ⟨other, rfl, bounds⟩ := Option.map_eq_some_iff.mp same.symm
      exact Slice.render_of_bounds slice other bounds.symm

theorem bounds_of_limit_text (left right : Option Slice)
    (properLeft : ∀ slice, left = some slice → slice.IsProper)
    (properRight : ∀ slice, right = some slice → slice.IsProper) (text : String)
    (written : limitText? left = some text) (writtenToo : limitText? right = some text) :
    left.map Slice.bounds = right.map Slice.bounds := by
  cases left with
  | none =>
      cases right with
      | none => rfl
      | some slice =>
          cases written
          exact absurd writtenToo slice.render_ne_empty
  | some slice =>
      cases right with
      | none =>
          cases writtenToo
          exact absurd written slice.render_ne_empty
      | some other =>
          exact congrArg some (Slice.bounds_of_render slice other (properLeft slice rfl)
            (properRight other rfl) text written writtenToo)

theorem text_of_limit_text (state : State) (limit : String)
    (limited : limitText? state.limit = some limit) :
    state.text? = some (state.unlimitedText ++ limit) := by
  rw [text_eq_some_iff]
  exact ⟨limit, limited, rfl⟩

theorem build_eq_iff_bounds (left right : State)
    (properLeft : ∀ slice, left.limit = some slice → slice.IsProper)
    (properRight : ∀ slice, right.limit = some slice → slice.IsProper)
    (same : left = { right with limit := left.limit }) :
    (∃ text, (Outcome.build (.state left)).value = .ok text ∧
        (Outcome.build (.state right)).value = .ok text) ↔
      left.HasText ∧ left.limit.map Slice.bounds = right.limit.map Slice.bounds := by
  have before : left.unlimitedText = right.unlimitedText := by
    rw [same]
    rfl
  simp only [Outcome.build_state_eq_ok_iff]
  constructor
  · rintro ⟨text, built, builtToo⟩
    refine ⟨left.exists_text_iff.mp ⟨text, built⟩, ?_⟩
    obtain ⟨limit, limited, rfl⟩ := (text_eq_some_iff left text).mp built
    obtain ⟨other, otherLimited, ends⟩ := (text_eq_some_iff right _).mp builtToo
    rw [before, String.append_right_inj] at ends
    exact bounds_of_limit_text _ _ properLeft properRight limit limited (ends ▸ otherLimited)
  · rintro ⟨hasText, bounds⟩
    obtain ⟨limit, limited⟩ := left.exists_limit_text_iff.mpr hasText
    have otherLimited := limit_text_of_bounds _ _ bounds ▸ limited
    refine ⟨_, text_of_limit_text left limit limited, ?_⟩
    rw [before, text_of_limit_text right limit otherLimited]

theorem step_count_build (state : State) (number : Int) (pair : Value)
    (window : pair.items? = some [.int 0, .int number]) :
    (state.step ⟨.limit, .int number⟩).value.build.value =
      (state.step ⟨.limit, pair⟩).value.build.value := by
  have countEdit : Step.edit? ⟨.limit, .int number⟩ =
      if number = 0 then some .keep
      else if 0 < number then some (.setLimit (.first number)) else none := rfl
  have windowEdit : Step.edit? ⟨.limit, pair⟩ =
      if number = 0 then some .keep
      else if 0 < number then some (.setLimit (.window 0 number)) else none := by
    have read := Step.limit_edit_window pair 0 number window
    simp only [Int.le_refl, true_and] at read
    exact read
  rcases Int.lt_trichotomy number 0 with negative | rfl | positive
  · have zero : number ≠ 0 := by omega
    have upward : ¬0 < number := by omega
    rw [if_neg zero, if_neg upward] at countEdit windowEdit
    rw [step_of_rejected state ⟨.limit, .int number⟩ (by simp [Step.isRejected, countEdit]),
      step_of_rejected state ⟨.limit, pair⟩ (by simp [Step.isRejected, windowEdit])]
  · rw [step_of_edit state _ .keep countEdit, step_of_edit state _ .keep windowEdit]
  · have zero : number ≠ 0 := by omega
    rw [if_neg zero, if_pos positive] at countEdit windowEdit
    rw [step_of_edit state _ _ countEdit, step_of_edit state _ _ windowEdit]
    apply Outcome.build_state_congr
    rw [text?, text?]
    exact congrArg (fun limit : Option String => limit.bind fun text =>
      some (state.unlimitedText ++ text))
      (limit_text_of_bounds (some (.first number)) (some (.window 0 number)) rfl)

theorem step_single_build (state : State) (count pair : Value) (single : count.items? = none)
    (window : pair.items? = some [.int 0, count]) :
    (state.step ⟨.limit, count⟩).value.build.value =
      (state.step ⟨.limit, pair⟩).value.build.value := by
  by_cases counts : ∃ number, count = .int number
  · obtain ⟨number, rfl⟩ := counts
    exact step_count_build state number pair window
  · have countEdit : Step.edit? ⟨.limit, count⟩ = none := by
      cases count with
      | int number => exact absurd ⟨number, rfl⟩ counts
      | list items => cases single
      | tuple items => cases single
      | _ => rfl
    have windowEdit : Step.edit? ⟨.limit, pair⟩ = none := by
      obtain rfl | rfl := (pair.items_eq_some _).mp window <;> cases count with
      | int number => exact absurd ⟨number, rfl⟩ counts
      | _ => rfl
    rw [step_of_rejected state ⟨.limit, count⟩ (by simp [Step.isRejected, countEdit]),
      step_of_rejected state ⟨.limit, pair⟩ (by simp [Step.isRejected, windowEdit])]

end State

theorem Replaced.last_of_some {inputs : List Value} {before after : Option Slice}
    (replaced : Replaced (fun input limit => ∃ slice, input.GivesSlice slice ∧ limit = some slice)
      before inputs after) (unlimited : before = none) (slice : Slice)
    (limited : after = some slice) :
    ∃ input, inputs.getLast? = some input ∧ input.GivesSlice slice := by
  unfold Replaced at replaced
  cases last : inputs.getLast? with
  | none =>
      simp [last, unlimited, limited] at replaced
  | some input =>
      simp only [last] at replaced
      obtain ⟨other, given, same⟩ := replaced
      rw [limited, Option.some.injEq] at same
      exact ⟨input, rfl, same ▸ given⟩

/-- Slices ask for exactly the results that were requested, as long as they can be written. In every
run of accepted steps from a new query, a limit is the last one that was asked for. The text ends
with the numerals of where it starts and where it stops if the latter has one, and nothing is built
if it has none. A count alone, of whatever size or sign, does the same as the pair of zero and that
count, down to the text or the rejection that is built. States that a query can be in and that
differ in their limits alone are built as the same text exactly if their limits can be written and
let the same results through. -/
theorem slices_select_requested (preferences : Preferences) :
    (∀ (includeDrafts base : Value) (start : State) (steps : List Step),
      State.start preferences includeDrafts base = .ok start →
      (∀ step ∈ steps, step.isRejected = false) →
      ∃ final, (Outcome.run (.state start) steps).value = .state final ∧
        ∀ slice, final.limit = some slice →
          (∃ input, ((Step.inputsFor steps .limit).filter fun input => !input.isNoLimit).getLast? =
            some input ∧ input.GivesSlice slice) ∧
          ∃ (first stop : Nat), first < stop ∧ (first : Int) = slice.offset ∧
            (stop : Int) - first = slice.count ∧
            (HasNumeral stop → ∃ before firstNumeral stopNumeral : String,
              IsNumeral firstNumeral first ∧ IsNumeral stopNumeral stop ∧
              (Outcome.build (.state { final with limit := none })).value = .ok before ∧
              (Outcome.build (.state final)).value =
                .ok (before ++ " [" ++ firstNumeral ++ "..." ++ stopNumeral ++ "]")) ∧
            (¬HasNumeral stop → (Outcome.build (.state final)).value = .error .overlong)) ∧
    (∀ (outcome : Outcome) (count pair : Value), count.items? = none →
      pair.items? = some [.int 0, count] →
      (outcome.step ⟨.limit, count⟩).value.build.value =
        (outcome.step ⟨.limit, pair⟩).value.build.value) ∧
    ∀ (left right : State), left.IsReachable → right.IsReachable →
      left = { right with limit := left.limit } →
      ((∃ text, (Outcome.build (.state left)).value = .ok text ∧
          (Outcome.build (.state right)).value = .ok text) ↔
        left.HasText ∧ left.limit.map Slice.bounds = right.limit.map Slice.bounds) := by
  refine ⟨?_, ?_, ?_⟩
  · intro includeDrafts base start steps started accepted
    obtain ⟨_, _, same, _⟩ := State.start_eq preferences includeDrafts base start started
    have unlimited : start.limit = none := by rw [same]
    have closed := State.ClosedForm.apply_all start steps accepted
    have reached := Outcome.run_accepted start steps accepted
    let final := start.applyAll (steps.filterMap Step.edit?)
    refine ⟨final, reached, ?_⟩
    intro slice limited
    have proper : slice.IsProper := by
      have startsWell : start.WellFormed :=
        ⟨fun filter _ => filter.groups_joined, fun slice set => by simp [unlimited] at set⟩
      have endsWell := Outcome.run_keeps State.WellFormed.apply (.state start) startsWell steps
      rw [reached] at endsWell
      exact endsWell.limit slice limited
    obtain ⟨first, stop, order, offset, count⟩ := proper.ends
    have numerals := slice.has_numerals_iff first stop order offset count
    refine ⟨closed.limit.last_of_some unlimited slice limited, first, stop, order, offset, count,
      ?_, ?_⟩
    · intro short
      have written := (slice.render_eq_ends first stop order offset count _).mpr ⟨short, rfl⟩
      refine ⟨final.unlimitedText, _, _, is_numeral_repr first, is_numeral_repr stop, ?_, ?_⟩
      · rw [Outcome.build_state_eq_ok_iff, State.text_of_limit_text _ "" rfl, String.append_empty]
        rfl
      · have limitText : State.limitText? final.limit = _ := (congrArg _ limited).trans written
        rw [Outcome.build_state_eq_ok_iff, State.text_of_limit_text final _ limitText]
        simp only [String.append_assoc]
    · intro long
      apply Outcome.build_state_of_not_has_text
      intro hasText
      exact long (numerals.mp (hasText slice limited))
  · intro outcome count pair single window
    cases outcome with
    | state current => exact State.step_single_build current count pair single window
    | rejected rejection => rfl
  · intro left right reachableLeft reachableRight same
    exact State.build_eq_iff_bounds left right reachableLeft.well_formed.limit
      reachableRight.well_formed.limit same

/-- A window that is not taken away, a count that is refused, and the two ways to ask for the first
seven results. -/
theorem slices_select_requested_first :
    let preferences : Preferences :=
      ⟨.text "INFO", .text "*", .bool false, .text "drafts.**"⟩
    let start : State := { filters := [draftExclusion "drafts.**"] }
    let steps : List Step := [⟨.limit, .list [.int 0, .int 7]⟩, ⟨.limit, .int 0⟩]
    let counted : State := { start with limit := some (.first 7) }
    let windowed : State := { start with limit := some (.window 0 7) }
    State.start preferences .null .null = .ok start ∧
      (Outcome.run (.state start) steps).value = .state windowed ∧
      (∃ (first stop : Nat) (before firstNumeral stopNumeral : String),
        IsNumeral firstNumeral first ∧ IsNumeral stopNumeral stop ∧
        (first : Int) = 0 ∧ (stop : Int) = 7 ∧
        (Outcome.build (.state start)).value = .ok before ∧
        (Outcome.build (.state windowed)).value =
          .ok (before ++ " [" ++ firstNumeral ++ "..." ++ stopNumeral ++ "]")) ∧
      ((Outcome.state start).step ⟨.limit, .int (-7)⟩).value.build.value =
        ((Outcome.state start).step ⟨.limit, .tuple [.int 0, .int (-7)]⟩).value.build.value ∧
      ∃ text, (Outcome.build (.state counted)).value = .ok text ∧
        (Outcome.build (.state windowed)).value = .ok text := by
  intro preferences start steps counted windowed
  have started : State.start preferences .null .null = .ok start := rfl
  have reached : (Outcome.run (.state start) steps).value = .state windowed := rfl
  have reachableCounted : counted.IsReachable :=
    ⟨preferences, .null, .null, "*", start, [⟨.limit, .int 7⟩], rfl, started, rfl⟩
  have reachableWindowed : windowed.IsReachable :=
    ⟨preferences, .null, .null, "*", start, steps, rfl, started, by rw [reached]; rfl⟩
  have seven : HasNumeral 7 := has_numeral_digit 7 (by decide)
  refine ⟨started, reached, ?_, ?_, ?_⟩
  · obtain ⟨final, run, ends⟩ := (slices_select_requested preferences).1 .null .null start steps
      started (by decide)
    cases reached.symm.trans run
    obtain ⟨_, first, stop, _, offset, count, built, _⟩ := ends (.window 0 7) rfl
    change (first : Int) = 0 at offset
    change (stop : Int) - first = 7 at count
    have ending : (stop : Int) = 7 := by omega
    rw [ending] at built
    obtain ⟨before, firstNumeral, stopNumeral, isFirst, isStop, bare, built⟩ := built seven
    exact ⟨first, stop, before, firstNumeral, stopNumeral, isFirst, isStop, offset, ending, bare,
      built⟩
  · exact (slices_select_requested preferences).2.1 _ _ _ rfl rfl
  · apply ((slices_select_requested preferences).2.2 counted windowed reachableCounted
      reachableWindowed rfl).mpr
    refine ⟨?_, rfl⟩
    intro slice limited
    cases limited
    exact ⟨has_numeral_digit 0 (by decide), seven⟩

/-- A window whose end has no numeral, though both of its numbers have one: the step is accepted,
its limit lets something through, and there is no text that could end with the slice. -/
theorem slices_select_requested_not_overlong :
    let number : Int := (9 * 10 ^ 4299 : Nat)
    let start : State := {}
    let limited : State := { start with limit := some (.window number number) }
    (Outcome.run (.state start) [⟨.limit, .tuple [.int number, .int number]⟩]).value =
        .state limited ∧
      limited.IsReachable ∧
      ¬∃ text, (Outcome.build (.state limited)).value = .ok text := by
  intro number start limited
  have reached : (Outcome.run (.state start)
      [⟨.limit, .tuple [.int number, .int number]⟩]).value = .state limited := by
    rw [Outcome.run_cons, Outcome.step_window start number number
      (Int.le_of_lt long_number_pos) long_number_pos]
    rfl
  refine ⟨reached, ?_, ?_⟩
  · exact ⟨⟨.text "INFO", .text "*", .bool true, .text "drafts.**"⟩, .null, .null, "*", start,
      _, rfl, rfl, by rw [reached]; rfl⟩
  · rw [Outcome.exists_build_state_iff]
    exact Outcome.not_has_text_window start number number not_has_numeral_double

end GroqQuery
