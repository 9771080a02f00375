import GroqQuery.Shape

/-!
Filter clauses and the boolean expression they are written as. A group is parenthesized and never
empty; the clauses at the top level of a query are joined without parentheses.
-/

namespace GroqQuery

inductive Joiner where
  | both
  | either
  deriving DecidableEq, Repr

namespace Joiner

def text : Joiner → String
  | .both => "&&"
  | .either => "||"

def all : List Joiner := [.both, .either]

def ofText? (text : String) : Option Joiner :=
  named? all Joiner.text text

def separator (joiner : Joiner) : String :=
  " " ++ joiner.text ++ " "

theorem of_text_eq_some (name : String) (joiner : Joiner) :
    ofText? name = some joiner ↔ name = joiner.text := by
  apply named_eq_some_iff
  · intro joiner
    cases joiner <;> decide
  · intro left right
    cases left <;> cases right <;> decide

end Joiner

inductive Filter where
  | equals (key value : String)
  | compare (key operator value : String) (negated : Bool)
  | group (first : Filter) (others : List Filter) (joiner : Joiner) (negated : Bool)
  | raw (text : String)
  | call (name argument : String)
  deriving Repr

namespace Filter

def shape : Filter → Shape
  | .equals .. => .equals
  | .compare .. => .compare
  | .group .. => .group
  | .raw _ => .raw
  | .call .. => .call

mutual

def render : Filter → String
  | .equals key value => key ++ " == " ++ value
  | .compare key operator value negated =>
      let expression := key ++ " " ++ operator ++ " " ++ value
      if negated then "!(" ++ expression ++ ")" else expression
  | .group first others joiner negated =>
      let body := joiner.separator.intercalate (first.render :: renderEach others)
      (if negated then "!" else "") ++ "(" ++ body ++ ")"
  | .raw text => text
  | .call name argument => name ++ "(" ++ argument ++ ")"
termination_by structural filter => filter

def renderEach : List Filter → List String
  | [] => []
  | filter :: rest => filter.render :: renderEach rest
termination_by structural filters => filters

end

@[simp] theorem render_each_eq_map (filters : List Filter) :
    renderEach filters = filters.map render := by
  induction filters with
  | nil => rfl
  | cons filter rest induction => simp [renderEach, induction]

/-- The body of a filter clause; without filters it is empty and the clause is left out. -/
def renderAll (filters : List Filter) : String :=
  Joiner.both.separator.intercalate (filters.map render)

mutual

def same : Filter → Filter → Bool
  | .equals key value, .equals key' value' => key = key' && value = value'
  | .compare key operator value negated, .compare key' operator' value' negated' =>
      key = key' && operator = operator' && value = value' && negated = negated'
  | .group first others joiner negated, .group first' others' joiner' negated' =>
      first.same first' && sameEach others others' && joiner = joiner' && negated = negated'
  | .raw text, .raw text' => text = text'
  | .call name argument, .call name' argument' => name = name' && argument = argument'
  | _, _ => false
termination_by structural filter => filter

def sameEach : List Filter → List Filter → Bool
  | [], [] => true
  | filter :: rest, filter' :: rest' => filter.same filter' && sameEach rest rest'
  | _, _ => false
termination_by structural filters => filters

end

mutual

theorem same_iff : ∀ left right : Filter, left.same right = true ↔ left = right
  | .group first others joiner negated, right => by
      cases right <;>
        simp [same, same_iff first, same_each_iff others, and_assoc]
  | .equals .., right => by cases right <;> simp [same]
  | .compare .., right => by cases right <;> simp [same, and_assoc]
  | .raw _, right => by cases right <;> simp [same]
  | .call .., right => by cases right <;> simp [same]

theorem same_each_iff : ∀ left right : List Filter, sameEach left right = true ↔ left = right
  | [], right => by cases right <;> simp [sameEach]
  | filter :: rest, right => by
      cases right <;> simp [sameEach, same_iff filter, same_each_iff rest]

end

instance : DecidableEq Filter := fun left right =>
  decidable_of_iff (left.same right = true) (same_iff left right)

end Filter

end GroqQuery
