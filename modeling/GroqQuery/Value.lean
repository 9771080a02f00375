import GroqQuery.Decimal.Numeral
import GroqQuery.Decimal.Whole
import GroqQuery.Filter
import GroqQuery.Projection

/-!
Values that a caller may hand to a query. Clauses come as plain scalars, lists, tuples and maps, as
markers that steer how a list or a map is read, or as finished filters and projections; a foreign
value is an object of any other kind.
-/

namespace GroqQuery

inductive Marker where
  | join
  | negate
  | nest
  | follow
  deriving DecidableEq, Repr

namespace Marker

def all : List Marker := [.join, .negate, .nest, .follow]

def name : Marker → String
  | .join => "JOIN"
  | .negate => "NEGATE"
  | .nest => "NEST"
  | .follow => "FOLLOW"

def word : Marker → String
  | .join => "join"
  | .negate => "negate"
  | .nest => "nest"
  | .follow => "follow"

def ofName? (name : String) : Option Marker :=
  named? all Marker.name name

end Marker

inductive Flaw where
  | missing
  | notText
  | undecodable
  | unreadableFlag
  | notFlag
  | notAllowed
  | notSequence
  | nested
  | tooShort
  | frozen
  deriving DecidableEq, Repr

namespace Flaw

def code : Flaw → String
  | .missing => "missing"
  | .notText => "string_type"
  | .undecodable => "string_unicode"
  | .unreadableFlag => "bool_parsing"
  | .notFlag => "bool_type"
  | .notAllowed => "literal_error"
  | .notSequence => "tuple_type"
  | .nested => "nested"
  | .tooShort => "too_short"
  | .frozen => "frozen_instance"

end Flaw

/-- An object of a kind that is not known here, by what can be asked of it. -/
structure Foreign where
  typeName : String
  holds : Bool
  inspected : String
  displayed : String
  /-- What a field for a text takes it as. -/
  asText : Except Flaw String
  asFlag : Except Flaw Bool

inductive Value where
  | null
  | bool (flag : Bool)
  | int (number : Int)
  | float (number : Binary64)
  | text (content : String)
  | list (items : List Value)
  | tuple (items : List Value)
  | map (entries : List (Value × Value))
  | marker (mark : Marker)
  | foreign (object : Foreign)
  | filter (clause : Filter)
  | projection (item : Projection)

abbrev Entries := List (Value × Value)

namespace Value

/-- Nothing, zero and whatever is empty do not hold; everything else does. -/
def holds : Value → Bool
  | .null => false
  | .bool flag => flag
  | .int number => number ≠ 0
  | .float number => !number.isZero
  | .text content => content ≠ ""
  | .list items => !items.isEmpty
  | .tuple items => !items.isEmpty
  | .map entries => !entries.isEmpty
  | .foreign object => object.holds
  | _ => true

def isMarker : Value → Bool
  | .marker _ => true
  | _ => false

/-- The items of a list or a tuple, which are read alike everywhere. -/
def items? : Value → Option (List Value)
  | .list items => some items
  | .tuple items => some items
  | _ => none

def isScalar : Value → Bool
  | .null => true
  | .bool _ => true
  | .int _ => true
  | .float _ => true
  | .text _ => true
  | _ => false

/-- The text a scalar has in a query, unless it is a number without a numeral. A text stands for
itself, so that callers write literals and field names as they are to appear. -/
def scalar? : Value → Option String
  | .null => some "null"
  | .bool true => some "true"
  | .bool false => some "false"
  | .int number => numeral? number
  | .float number => some number.text
  | .text content => some content
  | _ => none

def isWritable (value : Value) : Bool := value.scalar?.isSome

/-- The text of a value that has to be a scalar. What is none and what has no text are refused
differently. -/
def readScalar {Fault : Type} (refusal overlong : Fault) (value : Value) : Except Fault String :=
  if value.isScalar then
    match value.scalar? with
    | some content => .ok content
    | none => .error overlong
  else .error refusal

end Value

namespace Entries

def marked? (entries : Entries) (marker : Marker) : Option Value :=
  entries.findSome? fun
    | (.marker found, value) => if found = marker then some value else none
    | _ => none

def flag (entries : Entries) (marker : Marker) : Bool :=
  match entries.marked? marker with
  | some value => value.holds
  | none => false

end Entries

end GroqQuery
