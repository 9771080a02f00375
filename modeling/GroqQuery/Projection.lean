import GroqQuery.Shape

/-!
Projection items and the text they are written as. An entry or a reference carries either a text or
further items; items in braces are separated by a comma and a blank.
-/

namespace GroqQuery

inductive Projection where
  | field (name : String)
  | entry (key value : String)
  | entryOf (key : String) (value : Projection)
  | reference (key value : String) (follow : Bool)
  | referenceOf (key : String) (items : List Projection) (follow : Bool)
  | object (name : String) (items : List Projection) (joiner : String)
  deriving Repr

namespace Projection

def shape : Projection → Shape
  | .field _ => .field
  | .entry .. => .entry
  | .entryOf .. => .entry
  | .reference .. => .reference
  | .referenceOf .. => .reference
  | .object .. => .object

def entryJoiner : String := ":"

def followJoiner : String := "->"

def referenceJoiner (follow : Bool) : String :=
  if follow then followJoiner else entryJoiner

def separator : String := ", "

mutual

def render : Projection → String
  | .field name => name
  | .entry key value => key ++ entryJoiner ++ value
  | .entryOf key value => key ++ entryJoiner ++ value.render
  | .reference key value follow => key ++ referenceJoiner follow ++ value
  | .referenceOf key items follow =>
      key ++ referenceJoiner follow ++ "\x7b" ++ separator.intercalate (renderEach items) ++ "\x7d"
  | .object name items joiner =>
      name ++ joiner ++ "\x7b" ++ separator.intercalate (renderEach items) ++ "\x7d"
termination_by structural projection => projection

def renderEach : List Projection → List String
  | [] => []
  | item :: rest => item.render :: renderEach rest
termination_by structural items => items

end

@[simp] theorem render_each_eq_map (items : List Projection) :
    renderEach items = items.map render := by
  induction items with
  | nil => rfl
  | cons item rest induction => simp [renderEach, induction]

def renderAll (items : List Projection) : String :=
  separator.intercalate (items.map render)

mutual

def same : Projection → Projection → Bool
  | .field name, .field name' => name = name'
  | .entry key value, .entry key' value' => key = key' && value = value'
  | .entryOf key value, .entryOf key' value' => key = key' && value.same value'
  | .reference key value follow, .reference key' value' follow' =>
      key = key' && value = value' && follow = follow'
  | .referenceOf key items follow, .referenceOf key' items' follow' =>
      key = key' && sameEach items items' && follow = follow'
  | .object name items joiner, .object name' items' joiner' =>
      name = name' && sameEach items items' && joiner = joiner'
  | _, _ => false
termination_by structural projection => projection

def sameEach : List Projection → List Projection → Bool
  | [], [] => true
  | item :: rest, item' :: rest' => item.same item' && sameEach rest rest'
  | _, _ => false
termination_by structural items => items

end

mutual

theorem same_iff : ∀ left right : Projection, left.same right = true ↔ left = right
  | .field _, right => by cases right <;> simp [same]
  | .entry .., right => by cases right <;> simp [same]
  | .entryOf _ value, right => by cases right <;> simp [same, same_iff value]
  | .reference .., right => by cases right <;> simp [same, and_assoc]
  | .referenceOf _ items _, right => by
      cases right <;> simp [same, same_each_iff items, and_assoc]
  | .object _ items _, right => by cases right <;> simp [same, same_each_iff items, and_assoc]

theorem same_each_iff : ∀ left right : List Projection, sameEach left right = true ↔ left = right
  | [], right => by cases right <;> simp [sameEach]
  | item :: rest, right => by
      cases right <;> simp [sameEach, same_iff item, same_each_iff rest]

end

instance : DecidableEq Projection := fun left right =>
  decidable_of_iff (left.same right = true) (same_iff left right)

end Projection

end GroqQuery
