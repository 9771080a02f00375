import GroqQuery.Proofs.Filter.Formula
import GroqQuery.Proofs.Induction

/-!
What filters mean, and that their text means the same. The meaning of a filter is a truth value,
given the truth of its atoms. The text of a filter clause, read in the boolean grammar, has the
meaning of all its filters together, as long as no text in them breaks out of its place: parentheses
are balanced, joiners stand inside parentheses only, and nothing opens like a group.
-/

namespace GroqQuery

def Joiner.combine : Joiner → List Bool → Bool
  | .both, values => values.all id
  | .either, values => values.any id

namespace Filter

open Formula

mutual

def isLegible : Filter → Bool
  | .equals key value => isOpening key.toList && isWhole key.toList && isWhole value.toList
  | .compare key operator value _ =>
      isOpening key.toList && isWhole key.toList && isWhole operator.toList && isWhole value.toList
  | .group first others _ _ => first.isLegible && areLegible others
  | .raw text => isOpening text.toList && isWhole text.toList
  | .call name argument => isOpening name.toList && isWhole name.toList && isWhole argument.toList
termination_by structural filter => filter

def areLegible : List Filter → Bool
  | [] => true
  | filter :: rest => filter.isLegible && areLegible rest
termination_by structural filters => filters

end

mutual

def holds (valuation : String → Bool) : Filter → Bool
  | .equals key value => valuation (key ++ " == " ++ value)
  | .compare key operator value negated =>
      negated ^^ valuation (key ++ " " ++ operator ++ " " ++ value)
  | .group first others joiner negated =>
      negated ^^ joiner.combine (first.holds valuation :: holdEach valuation others)
  | .raw text => valuation text
  | .call name argument => valuation (name ++ "(" ++ argument ++ ")")
termination_by structural filter => filter

def holdEach (valuation : String → Bool) : List Filter → List Bool
  | [] => []
  | filter :: rest => filter.holds valuation :: holdEach valuation rest
termination_by structural filters => filters

end

mutual

/-- The formula that the text of a filter is read as. -/
def formula : Filter → Formula
  | .equals key value => .atom (key ++ " == " ++ value)
  | .compare key operator value negated =>
      signed negated (.atom (key ++ " " ++ operator ++ " " ++ value))
  | .group first others joiner negated =>
      signed negated (joinedAll joiner first.formula (formulaEach others))
  | .raw text => .atom text
  | .call name argument => .atom (name ++ "(" ++ argument ++ ")")
termination_by structural filter => filter

def formulaEach : List Filter → List Formula
  | [] => []
  | filter :: rest => filter.formula :: formulaEach rest
termination_by structural filters => filters

end

theorem are_legible_iff (filters : List Filter) :
    areLegible filters = true ↔ ∀ filter ∈ filters, filter.isLegible = true := by
  induction filters with
  | nil => simp [areLegible]
  | cons filter rest induction => simp [areLegible, induction]

@[simp] theorem hold_each_eq_map (valuation : String → Bool) (filters : List Filter) :
    holdEach valuation filters = filters.map (holds valuation) := by
  induction filters with
  | nil => rfl
  | cons filter rest induction => simp [holdEach, induction]

@[simp] theorem formula_each_eq_map (filters : List Filter) :
    formulaEach filters = filters.map formula := by
  induction filters with
  | nil => rfl
  | cons filter rest induction => simp [formulaEach, induction]

end Filter

namespace Formula

theorem signed_holds (valuation : String → Bool) (negated : Bool) (formula : Formula) :
    (signed negated formula).holds valuation = (negated ^^ formula.holds valuation) := by
  cases negated <;> simp [signed, holds]

theorem joined_all_holds (valuation : String → Bool) (joiner : Joiner) (first : Formula)
    (others : List Formula) :
    (joinedAll joiner first others).holds valuation =
      joiner.combine ((first :: others).map (holds valuation)) := by
  induction others generalizing first with
  | nil => cases joiner <;> simp [joinedAll, Joiner.combine]
  | cons second others induction =>
      cases joiner <;> simp [joinedAll, holds, induction, Joiner.combine]

end Formula

theorem Filter.formula_holds (valuation : String → Bool) (filter : Filter) :
    filter.formula.holds valuation = filter.holds valuation := by
  induction filter using Filter.tree_induction with
  | equals key value => rfl
  | compare key operator value negated =>
      exact Formula.signed_holds valuation negated _
  | group first others joiner negated members =>
      have same : (first :: others).map (Formula.holds valuation ∘ Filter.formula) =
          (first :: others).map (Filter.holds valuation) :=
        List.map_congr_left members
      rw [Filter.formula, Formula.signed_holds, Formula.joined_all_holds, Filter.holds,
        Filter.formula_each_eq_map, Filter.hold_each_eq_map, ← List.map_cons, List.map_map, same,
        List.map_cons]
  | raw text => rfl
  | call name argument => rfl

namespace Filter

open Formula

theorem read_members (joiner : Joiner) (first : Filter) (others : List Filter) (rest : List Char)
    (ends : isEnd rest = true)
    (reads : ∀ member ∈ first :: others, ∀ after, isStop after = true →
      read .operand (member.render.toList ++ after) = some (member.formula, after)) :
    read (.joined joiner)
        ((joiner.separator.intercalate ((first :: others).map render)).toList ++ rest) =
      some (joinedAll joiner first.formula (others.map formula), rest) := by
  induction others generalizing first with
  | nil =>
      have single := reads first (by simp) rest (is_stop_of_is_end rest ends)
      simp only [List.map_cons, List.map_nil, String.intercalate_singleton, joinedAll]
      apply read_single joiner _ _ _ _ (after_of_is_end joiner rest ends)
      exact read_part joiner _ _ _ single fun other _ => after_of_is_end other rest ends
  | cons second others induction =>
      -- Behind the first member stands a joiner, and behind that the text of the others.
      have tail := induction second fun member belongs => reads member (by simp [belongs])
      generalize tailText :
        (joiner.separator.intercalate ((second :: others).map render)).toList ++ rest = more at tail
      have head := reads first (by simp) (joiner.separator.toList ++ more)
        (is_stop_separator joiner more)
      have text : (joiner.separator.intercalate ((first :: second :: others).map render)).toList ++
          rest = first.render.toList ++ joiner.separator.toList ++ more := by
        rw [← tailText]
        simp only [List.map_cons, String.intercalate_cons_cons, String.toList_append,
          List.append_assoc]
      rw [text]
      apply read_several joiner _ _ _ _ _ _ tail
      rw [List.append_assoc]
      exact read_part joiner _ _ _ head fun other differs => after_other joiner other more differs

theorem read_text (text : String) (rest : List Char) (opening : isOpening text.toList = true)
    (whole : isWhole text.toList = true) (stop : isStop rest = true) :
    read .operand (text.toList ++ rest) = some (.atom text, rest) := by
  rw [read_atom text.toList rest opening whole stop, String.ofList_toList]

theorem read_render (filter : Filter) (legible : filter.isLegible = true) (rest : List Char)
    (stop : isStop rest = true) :
    read .operand (filter.render.toList ++ rest) = some (filter.formula, rest) := by
  induction filter using tree_induction generalizing rest with
  | equals key value =>
      simp only [isLegible, Bool.and_eq_true] at legible
      obtain ⟨⟨opening, keyWhole⟩, valueWhole⟩ := legible
      have text : (key ++ " == " ++ value).toList =
          key.toList ++ ' ' :: (['=', '='] ++ ' ' :: value.toList) := by
        simp only [String.toList_append, List.append_assoc]
        rfl
      have whole := is_whole_spaced ['=', '='] value.toList (by decide) valueWhole
      apply read_text (key ++ " == " ++ value) rest _ _ stop
      · rw [text]
        exact is_opening_append _ _ opening
      · rw [text]
        exact is_whole_spaced _ _ keyWhole whole
  | compare key operator value negated =>
      simp only [isLegible, Bool.and_eq_true] at legible
      obtain ⟨⟨⟨opening, keyWhole⟩, operatorWhole⟩, valueWhole⟩ := legible
      have text : (key ++ " " ++ operator ++ " " ++ value).toList =
          key.toList ++ ' ' :: (operator.toList ++ ' ' :: value.toList) := by
        simp only [String.toList_append, List.append_assoc]
        rfl
      have atomOpening : isOpening (key ++ " " ++ operator ++ " " ++ value).toList = true := by
        rw [text]
        exact is_opening_append _ _ opening
      have atomWhole : isWhole (key ++ " " ++ operator ++ " " ++ value).toList = true := by
        rw [text]
        exact is_whole_spaced _ _ keyWhole (is_whole_spaced _ _ operatorWhole valueWhole)
      cases negated with
      | false => exact read_text _ rest atomOpening atomWhole stop
      | true =>
          have atom := read_text _ (')' :: rest) atomOpening atomWhole rfl
          have conjunction := read_single .both _ _ _ atom rfl
          have expression := read_single .either _ _ _ conjunction rfl
          have negation := read_signed true _ rest _ expression
          rw [formula, ← negation]
          congr 1
          simp [render]
  | group first others joiner negated members =>
      have legibleEach := (are_legible_iff (first :: others)).mp legible
      have reads : ∀ member ∈ first :: others, ∀ after, isStop after = true →
          read .operand (member.render.toList ++ after) = some (member.formula, after) := by
        intro member belongs after stopped
        exact members member belongs (legibleEach member belongs) after stopped
      have body := read_members joiner first others (')' :: rest) rfl reads
      have expression := read_expression joiner _ _ _ body rfl
      have text := read_signed negated _ rest _ expression
      rw [formula, formula_each_eq_map, ← text]
      congr 1
      cases negated <;> simp [render]
  | raw text =>
      simp only [isLegible, Bool.and_eq_true] at legible
      exact read_text text rest legible.1 legible.2 stop
  | call name argument =>
      simp only [isLegible, Bool.and_eq_true] at legible
      obtain ⟨⟨opening, nameWhole⟩, argumentWhole⟩ := legible
      have text : (name ++ "(" ++ argument ++ ")").toList =
          name.toList ++ ('(' :: argument.toList ++ [')']) := by
        simp only [String.toList_append, List.append_assoc]
        rfl
      have whole := is_whole_parenthesized argument.toList argumentWhole
      apply read_text (name ++ "(" ++ argument ++ ")") rest _ _ stop
      · rw [text]
        exact is_opening_append _ _ opening
      · rw [text]
        exact is_whole_append _ _ nameWhole whole rfl

/-- Read as a boolean expression, the body of a filter clause holds exactly when all of its filters
hold, however their groups are nested, joined and negated. -/
theorem render_all_means_conjunction (filters : List Filter) (nonempty : filters ≠ [])
    (legible : ∀ filter ∈ filters, filter.isLegible = true) :
    ∃ formula, Formula.parse (renderAll filters) = some formula ∧
      ∀ valuation, formula.holds valuation = filters.all (holds valuation) := by
  cases filters with
  | nil => exact absurd rfl nonempty
  | cons first others =>
      have body := read_members .both first others [] rfl fun member belongs after stop =>
        read_render member (legible member belongs) after stop
      have expression := read_expression .both _ _ _ body rfl
      refine ⟨joinedAll .both first.formula (others.map formula), ?_, ?_⟩
      · rw [List.append_nil] at expression
        rw [Formula.parse, renderAll, expression]
      · intro valuation
        have same : (first :: others).map (Formula.holds valuation ∘ Filter.formula) =
            (first :: others).map (Filter.holds valuation) :=
          List.map_congr_left fun member _ => formula_holds valuation member
        rw [joined_all_holds, ← List.map_cons, List.map_map, same]
        simp [Joiner.combine]

/-- Groups in groups, with joiners inside an argument. -/
theorem render_all_means_conjunction_nested :
    ∃ formula,
      Formula.parse ("(a == 1 || !(b == f(x && y) && defined(slug))) && " ++
        "!(_id in path('drafts.**')) && count(tags) > 2") = some formula ∧
      ∀ valuation, formula.holds valuation =
        ((valuation "a == 1" || !(valuation "b == f(x && y)" && valuation "defined(slug)")) &&
          (!valuation "_id in path('drafts.**')" && valuation "count(tags) > 2")) := by
  obtain ⟨formula, parsed, meaning⟩ := render_all_means_conjunction
    [.group (.equals "a" "1")
        [.group (.equals "b" "f(x && y)") [.call "defined" "slug"] .both true] .either false,
      .compare "_id" "in" "path('drafts.**')" true, .raw "count(tags) > 2"]
    (by simp) (by decide)
  refine ⟨formula, parsed, ?_⟩
  intro valuation
  rw [meaning]
  simp [holds, Joiner.combine]

end Filter

end GroqQuery
