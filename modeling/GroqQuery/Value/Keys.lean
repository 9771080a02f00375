import GroqQuery.Value

/-!
Maps built from a sequence of entries. A repeated key keeps its first place and takes its last
value; numbers of every kind are one key when they are equal as numbers. Lists and maps are no
keys, nor is a tuple that holds one.
-/

namespace GroqQuery

namespace Value

/-- The exact number of a flag, a whole number or a finite floating-point number. -/
def ratio? : Value → Option (Int × Nat)
  | .bool flag => some (if flag then 1 else 0, 1)
  | .int number => some (number, 1)
  | .float number => number.ratio?
  | _ => none

/-- Equality of numbers: fractions by cross multiplication, the infinities by their bits. -/
def sameNumber (left right : Value) : Bool :=
  match left.ratio?, right.ratio? with
  | some (above, below), some (above', below') => above * below' = above' * below
  | none, none =>
      match left, right with
      | .float number, .float number' => number = number' && !number.isNaN
      | _, _ => false
  | _, _ => false

mutual

/-- Whether two values are one key. A foreign value equals nothing. -/
def sameKey : Value → Value → Bool
  | .null, .null => true
  | .text content, .text content' => content = content'
  | .tuple items, .tuple items' => sameKeys items items'
  | .marker mark, .marker mark' => mark = mark'
  | .filter clause, .filter clause' => clause = clause'
  | .projection item, .projection item' => item = item'
  | value, value' => value.sameNumber value'
termination_by structural value => value

def sameKeys : List Value → List Value → Bool
  | [], [] => true
  | value :: rest, value' :: rest' => value.sameKey value' && sameKeys rest rest'
  | _, _ => false
termination_by structural values => values

end

mutual

/-- What keeps a value from being a key: itself, or the first such item of a tuple. -/
def keyFault? : Value → Option Value
  | .list items => some (.list items)
  | .map entries => some (.map entries)
  | .tuple items => firstKeyFault? items
  | _ => none
termination_by structural value => value

def firstKeyFault? : List Value → Option Value
  | [] => none
  | value :: rest =>
      match value.keyFault? with
      | some found => some found
      | none => firstKeyFault? rest
termination_by structural values => values

end

end Value

namespace Entries

def put (key value : Value) : Entries → Entries
  | [] => [(key, value)]
  | (present, old) :: rest =>
      if present.sameKey key then (present, value) :: rest
      else (present, old) :: put key value rest

/-- The entries of a map, or the first value that cannot be a key. -/
def ofList (entries : List (Value × Value)) : Except Value Entries :=
  entries.foldlM (fun built (key, value) =>
    match key.keyFault? with
    | some found => .error found
    | none => .ok (built.put key value)) []

end Entries

end GroqQuery
