import GroqQuery.Names

/-!
The shapes a finished clause or item can have, with the names they go by outside: the name of the
shape, and the word its `kind` field holds. Two shapes may share that word when one is a filter and
the other a projection.
-/

namespace GroqQuery

inductive Shape where
  | equals
  | compare
  | group
  | raw
  | call
  | field
  | entry
  | reference
  | object
  deriving DecidableEq, Repr

namespace Shape

def all : List Shape :=
  [.equals, .compare, .group, .raw, .call, .field, .entry, .reference, .object]

def name : Shape → String
  | .equals => "FilterPair"
  | .compare => "PairWithOperator"
  | .group => "Group"
  | .raw => "Raw"
  | .call => "Nest"
  | .field => "FieldName"
  | .entry => "ProjectionPair"
  | .reference => "FollowPair"
  | .object => "NestedGroup"

def kind : Shape → String
  | .equals => "pair"
  | .compare => "operator"
  | .group => "group"
  | .raw => "raw"
  | .call => "nest"
  | .field => "field"
  | .entry => "pair"
  | .reference => "follow"
  | .object => "nested"

def ofName? (name : String) : Option Shape :=
  named? all Shape.name name

end Shape

end GroqQuery
