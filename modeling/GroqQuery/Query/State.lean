import GroqQuery.Field
import GroqQuery.Construction

/-!
A query under construction, and the text it stands for: the base, the filter clause, the projection,
the qualifier, the order and the slice, each left out where there is nothing to say. Only the slice
has numbers in it, so that a state without a text is one whose slice has none.
-/

namespace GroqQuery

inductive Slice where
  | first (count : Int)
  | window (offset count : Int)
  deriving DecidableEq, Repr

namespace Slice

def offset : Slice → Int
  | .first _ => 0
  | .window offset _ => offset

def count : Slice → Int
  | .first count => count
  | .window _ count => count

/-- The end of the slice is not part of it. It may have no numeral where the two numbers have. -/
def render? (slice : Slice) : Option String := do
  let first ← numeral? slice.offset
  let stop ← numeral? (slice.offset + slice.count)
  some (" [" ++ first ++ "..." ++ stop ++ "]")

end Slice

structure State where
  base : String := "*"
  filters : List Filter := []
  projections : List Projection := []
  qualifier : String := ""
  order : List String := []
  limit : Option Slice := none
  deriving DecidableEq, Repr

namespace State

def filterText (filters : List Filter) : String :=
  let body := Filter.renderAll filters
  if body = "" then "" else "[" ++ body ++ "]"

/-- A single field behind something longer than one character reads as an attribute of the
results; everything else goes into braces. -/
def projectionText (before : String) : List Projection → String
  | [] => ""
  | [.field name] => if 1 < before.length then "." ++ name else "\x7b" ++ name ++ "\x7d"
  | items => "\x7b" ++ Projection.renderAll items ++ "\x7d"

def orderText : List String → String
  | [] => ""
  | terms => " | order(" ++ ", ".intercalate terms ++ ")"

def limitText? : Option Slice → Option String
  | none => some ""
  | some slice => slice.render?

def unlimitedText (state : State) : String :=
  let filtered := state.base ++ filterText state.filters
  filtered ++ projectionText filtered state.projections ++ state.qualifier ++
    orderText state.order

def text? (state : State) : Option String := do
  let limit ← limitText? state.limit
  some (state.unlimitedText ++ limit)

end State

namespace Value

def asSlice : Value → Except Flaw (Option Slice)
  | .null => .ok none
  | .int count => .ok (some (.first count))
  | value =>
      match value.items? with
      | some [.int offset, .int count] => .ok (some (.window offset count))
      | _ => .error .nested

end Value

namespace State

/-- A state given by its fields. The size of a limit is not looked at here. -/
def ofFields (fields : Fields) : Checked State :=
  ((fields.optional "base_query" Value.asText "*").both
    ((fields.optional "filters" (Value.asSequence Value.filter?) []).both
      ((fields.optional "projections" (Value.asSequence Value.projection?) []).both
        ((fields.optional "scope_qualifier" Value.asText "").both
          ((fields.optional "order" (Value.asSequence fun term => term.asText.toOption) []).both
            (fields.optional "limit" Value.asSlice none)))))).map
    fun (base, filters, projections, qualifier, order, limit) =>
      ⟨base, filters, projections, qualifier, order, limit⟩

end State

end GroqQuery
