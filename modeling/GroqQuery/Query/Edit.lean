import GroqQuery.Failure
import GroqQuery.Filter.Reading
import GroqQuery.Projection.Reading
import GroqQuery.Query.State

/-!
Steps of a query and the edits they are read as. Whether an input is accepted, and which edit it
stands for, is decided from the input alone; an edit can then be applied to any state.
-/

namespace GroqQuery

structure Step where
  part : Part
  input : Value

inductive Edit where
  | addFilters (added : List Filter)
  | addProjections (added : List Projection)
  | setQualifier (qualifier : String)
  | setOrder (terms : List String)
  | setLimit (slice : Slice)
  | keep

namespace Edit

/-- Filters and projections only ever grow; the other parts are replaced. -/
def apply (state : State) : Edit → State
  | .addFilters added => { state with filters := state.filters ++ added }
  | .addProjections added => { state with projections := state.projections ++ added }
  | .setQualifier qualifier => { state with qualifier := qualifier }
  | .setOrder terms => { state with order := terms }
  | .setLimit slice => { state with limit := some slice }
  | .keep => state

end Edit

namespace Step

def filterEdit? (input : Value) : Option Edit :=
  match Filter.read input with
  | .ok added => some (.addFilters added)
  | .error _ => none

def projectionEdit? (input : Value) : Option Edit :=
  match Projection.read input with
  | .ok added => some (.addProjections added)
  | .error _ => none

def qualifierEdit? : Value → Option Edit
  | .text qualifier => some (.setQualifier qualifier)
  | _ => none

def orderEdit? : Value → Option Edit
  | .text term => some (.setOrder [term])
  | value => do
      let items ← value.items?
      let terms ← items.mapM Value.text?
      some (.setOrder terms)

/-- A positive count, or an offset from zero on with a positive count. Zero, and zero with zero,
change nothing. -/
def limitEdit? : Value → Option Edit
  | .int count =>
      if count = 0 then some .keep
      else if 0 < count then some (.setLimit (.first count))
      else none
  | value =>
      match value.items? with
      | some [.int offset, .int count] =>
          if offset = 0 ∧ count = 0 then some .keep
          else if 0 ≤ offset ∧ 0 < count then some (.setLimit (.window offset count))
          else none
      | _ => none

def edit? (step : Step) : Option Edit :=
  match step.part with
  | .filter => filterEdit? step.input
  | .projection => projectionEdit? step.input
  | .qualifier => qualifierEdit? step.input
  | .order => orderEdit? step.input
  | .limit => limitEdit? step.input

end Step

end GroqQuery
