import GroqQuery.Value.Display

/-!
Failures that leave the library: what kind they are, what they say, and further details by name.
The kinds form a tree with one root, and a caller may handle a failure under any of its ancestors.
A detail that cannot be shown takes the place of the failure that it belongs to.
-/

namespace GroqQuery

open Text

inductive Part where
  | filter
  | projection
  | qualifier
  | order
  | limit
  deriving DecidableEq, Repr

namespace Part

def all : List Part := [.filter, .projection, .qualifier, .order, .limit]

def name : Part → String
  | .filter => "FILTER"
  | .projection => "PROJECTION"
  | .qualifier => "QUALIFIER"
  | .order => "ORDER"
  | .limit => "LIMIT"

def word : Part → String
  | .filter => "filter"
  | .projection => "projection"
  | .qualifier => "qualifier"
  | .order => "order"
  | .limit => "limit"

def ofWord? (word : String) : Option Part :=
  named? all Part.word word

def message : Part → String
  | .filter => "Filters must be a list of maps or nested lists of maps"
  | .projection => "Projections must be a string, list of strings, or nested maps"
  | .qualifier => "Qualifier must be a string"
  | .order => "Order must be a string or a list of strings"
  | .limit =>
      "Limit must be a positive integer or a tuple of \x7boffset, limit\x7d where both are > 0"

end Part

inductive FailureKind where
  | general
  | validation
  | invalid (part : Part)
  | rendering
  | configuration
  | invalidConfiguration
  deriving DecidableEq, Repr

namespace FailureKind

def all : List FailureKind :=
  [.general, .validation] ++ Part.all.map .invalid ++
    [.rendering, .configuration, .invalidConfiguration]

def name : FailureKind → String
  | .general => "GroqBuilderError"
  | .validation => "ValidationError"
  | .invalid .filter => "InvalidFilterError"
  | .invalid .projection => "InvalidProjectionError"
  | .invalid .qualifier => "InvalidQualifierError"
  | .invalid .order => "InvalidOrderError"
  | .invalid .limit => "InvalidLimitError"
  | .rendering => "CompilerError"
  | .configuration => "ConfigurationError"
  | .invalidConfiguration => "InvalidConfigError"

def ofName? (name : String) : Option FailureKind :=
  named? all FailureKind.name name

/-- The kind itself, then its ancestors up to the root. -/
def lineage : FailureKind → List FailureKind
  | .general => [.general]
  | .validation => [.validation, .general]
  | .invalid part => [.invalid part, .validation, .general]
  | .rendering => [.rendering, .general]
  | .configuration => [.configuration, .general]
  | .invalidConfiguration => [.invalidConfiguration, .configuration, .general]

end FailureKind

structure Failure where
  kind : FailureKind
  message : String
  details : Entries

namespace Failure

def detailTexts? : Entries → Option (List String)
  | [] => some []
  | (name, detail) :: rest => do
      let shown ← name.display?
      let inspected ← detail.inspect?
      let others ← detailTexts? rest
      some ((shown ++ "=" ++ inspected) :: others)

/-- The message with the details behind it in parentheses, or whichever of the two there is. -/
def text? (failure : Failure) : Option String := do
  let details ← detailTexts? failure.details
  if details.isEmpty then some failure.message
  else
    let joined := ", ".intercalate details
    if failure.message = "" then some joined
    else some (failure.message ++ " (" ++ joined ++ ")")

def inspect? (failure : Failure) : Option String := do
  let details ← (Value.map failure.details).inspect?
  some (failure.kind.name ++
    "(message=" ++ quoted failure.message ++ ", details=" ++ details ++ ")")

end Failure

/-- What leaves a call that gives no result: a failure, or the news that a number without a numeral
had to be written. -/
inductive Raised where
  | failure (failure : Failure)
  | overlong

/-- A failure is raised with its text, and cannot be raised without one. -/
def Failure.raised (failure : Failure) : Raised :=
  if failure.text?.isSome then .failure failure else .overlong

end GroqQuery
