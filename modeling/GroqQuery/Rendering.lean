import GroqQuery.Failure

/-!
Rendering of arbitrary values. Finished clauses and items always have a text; the first value that
is none of them stops the rendering and is named.
-/

namespace GroqQuery

def malformed (message : String) (found : Value) : Failure :=
  ⟨.rendering, message, [(.text "node", found)]⟩

/-- What a value yields one by one: a text its characters, a map its keys. -/
def Value.elements? : Value → Option (List Value)
  | .text content => some (content.toList.map fun char => .text char.toString)
  | .map entries => some (entries.map (·.1))
  | value => value.items?

namespace Filter

def renderValue : Value → Except Raised String
  | .filter clause => .ok clause.render
  | found => .error (malformed "Invalid filter node" found).raised

def renderValues (values : List Value) : Except Raised String := do
  let texts ← values.mapM renderValue
  .ok (Joiner.both.separator.intercalate texts)

end Filter

namespace Projection

def renderValue : Value → Except Raised String
  | .projection item => .ok item.render
  | found => .error (malformed "Invalid projection node" found).raised

def renderValues (values : List Value) : Except Raised String := do
  let texts ← values.mapM renderValue
  .ok (separator.intercalate texts)

end Projection

end GroqQuery
