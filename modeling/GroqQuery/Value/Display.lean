import GroqQuery.Text.Quoted
import GroqQuery.Value

/-!
How values appear in messages. `inspect?` shows what a value is made of, with every text in quotes;
`display?` is the same except that a text, a marker or a finished clause appears without its
wrapping. Neither shows a value with a number in it that has no numeral.
-/

namespace GroqQuery

open Text

/-- A single item keeps a comma behind it, so that it differs from an item in parentheses. -/
def tupleText : List String → String
  | [] => "()"
  | [item] => "(" ++ item ++ ",)"
  | items => "(" ++ ", ".intercalate items ++ ")"

def listText (items : List String) : String :=
  "[" ++ ", ".intercalate items ++ "]"

def mapText (entries : List (String × String)) : String :=
  "\x7b" ++ ", ".intercalate (entries.map fun entry => entry.1 ++ ": " ++ entry.2) ++ "\x7d"

def flagText (flag : Bool) : String :=
  if flag then "True" else "False"

def fieldTexts (shape : Shape) (fields : List (String × String)) : List String :=
  (("kind", quoted shape.kind) :: fields).map fun field => field.1 ++ "=" ++ field.2

def labelled (shape : Shape) (fields : List (String × String)) : String :=
  shape.name ++ "(" ++ ", ".intercalate (fieldTexts shape fields) ++ ")"

def unlabelled (shape : Shape) (fields : List (String × String)) : String :=
  " ".intercalate (fieldTexts shape fields)

namespace Filter

mutual

def fields : Filter → List (String × String)
  | .equals key value => [("key", quoted key), ("value", quoted value)]
  | .compare key operator value negated =>
      [("key", quoted key), ("operator", quoted operator), ("value", quoted value),
        ("negate", flagText negated)]
  | .group first others joiner negated =>
      [("children", tupleText (labelled first.shape first.fields :: inspectEach others)),
        ("join", quoted joiner.text), ("negate", flagText negated)]
  | .raw text => [("text", quoted text)]
  | .call name argument => [("key", quoted name), ("value", quoted argument)]
termination_by structural clause => clause

def inspectEach : List Filter → List String
  | [] => []
  | clause :: rest => labelled clause.shape clause.fields :: inspectEach rest
termination_by structural clauses => clauses

end

def inspect (clause : Filter) : String := labelled clause.shape clause.fields

def display (clause : Filter) : String := unlabelled clause.shape clause.fields

end Filter

namespace Projection

mutual

def fields : Projection → List (String × String)
  | .field name => [("name", quoted name)]
  | .entry key value => [("key", quoted key), ("value", quoted value)]
  | .entryOf key value =>
      [("key", quoted key), ("value", labelled value.shape value.fields)]
  | .reference key value follow =>
      [("key", quoted key), ("value", quoted value), ("follow", flagText follow)]
  | .referenceOf key items follow =>
      [("key", quoted key), ("value", tupleText (inspectEach items)), ("follow", flagText follow)]
  | .object name items joiner =>
      [("alias", quoted name), ("children", tupleText (inspectEach items)),
        ("joiner", quoted joiner)]
termination_by structural item => item

def inspectEach : List Projection → List String
  | [] => []
  | item :: rest => labelled item.shape item.fields :: inspectEach rest
termination_by structural items => items

end

def inspect (item : Projection) : String := labelled item.shape item.fields

def display (item : Projection) : String := unlabelled item.shape item.fields

end Projection

namespace Value

def typeName : Value → String
  | .null => "NoneType"
  | .bool _ => "bool"
  | .int _ => "int"
  | .float _ => "float"
  | .text _ => "str"
  | .list _ => "list"
  | .tuple _ => "tuple"
  | .map _ => "dict"
  | .marker _ => "Marker"
  | .foreign object => object.typeName
  | .filter clause => clause.shape.name
  | .projection item => item.shape.name

mutual

def inspect? : Value → Option String
  | .null => some "None"
  | .bool flag => some (flagText flag)
  | .int number => numeral? number
  | .float number => some number.text
  | .text content => some (quoted content)
  | .list items => listText <$> inspectEach? items
  | .tuple items => tupleText <$> inspectEach? items
  | .map entries => mapText <$> inspectEntries? entries
  | .marker mark => some ("<Marker." ++ mark.name ++ ": " ++ quoted mark.word ++ ">")
  | .foreign object => some object.inspected
  | .filter clause => some clause.inspect
  | .projection item => some item.inspect
termination_by structural value => value

def inspectEach? : List Value → Option (List String)
  | [] => some []
  | value :: rest => do
      let shown ← value.inspect?
      let others ← inspectEach? rest
      some (shown :: others)
termination_by structural values => values

def inspectEntries? : List (Value × Value) → Option (List (String × String))
  | [] => some []
  | (key, value) :: rest => do
      let name ← key.inspect?
      let shown ← value.inspect?
      let others ← inspectEntries? rest
      some ((name, shown) :: others)
termination_by structural entries => entries

end

def display? : Value → Option String
  | .text content => some content
  | .marker mark => some ("Marker." ++ mark.name)
  | .foreign object => some object.displayed
  | .filter clause => some clause.display
  | .projection item => some item.display
  | value => value.inspect?

def isPrintable (value : Value) : Bool := value.inspect?.isSome

end Value

end GroqQuery
