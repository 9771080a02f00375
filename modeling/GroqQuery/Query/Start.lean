import GroqQuery.Query.State
import GroqQuery.Settings

/-!
Where a query starts. Unless drafts are wanted or there is no base, the first filter keeps the
documents under the drafts path out.
-/

namespace GroqQuery

/-- The filter that keeps drafts out. The path stands in its quotes as it is given. -/
def draftExclusion (path : String) : Filter :=
  .compare "_id" "in" ("path('" ++ path ++ "')") true

namespace Preferences

/-- The drafts path, unless another value that holds is given for it. Any value is displayed in the
quotes if it can be. -/
def draftExclusion? (preferences : Preferences) (path : Value) : Option Filter :=
  draftExclusion <$> (if path.holds then path else preferences.draftsPath).display?

end Preferences

inductive StartFault where
  | overlong
  | illTyped (faults : List FieldFault)
  deriving DecidableEq, Repr

namespace Value

def orElse (value default : Value) : Value :=
  match value with
  | .null => default
  | value => value

end Value

namespace State

/-- The exclusion of drafts, unless they are wanted or there is no base. -/
def startingFilters (preferences : Preferences) (includeDrafts base : Value) :
    Except StartFault (List Filter) :=
  let hasBase := match base with
    | .text content => content ≠ ""
    | _ => true
  if !includeDrafts.holds && hasBase then
    match preferences.draftExclusion? .null with
    | some clause => .ok [clause]
    | none => .error .overlong
  else .ok []

/-- A new query. What is not given comes from the settings; a base that is no text is refused. -/
def start (preferences : Preferences) (includeDrafts base : Value) : Except StartFault State := do
  let base := base.orElse preferences.baseQuery
  let filters ←
    startingFilters preferences (includeDrafts.orElse preferences.includeDrafts) base
  (ofFields [("base_query", base), ("filters", .tuple (filters.map .filter))]).mapError .illTyped

end State

end GroqQuery
