import GroqQuery.Value.Display

/-!
Reading projections from plain values. A text is a field, a map nests items under each of its
names, and a list inside another list is a pair of a key and a value, with a third item when it is
a reference. Finished items are taken as they are, wherever they stand.
-/

namespace GroqQuery

open Text

inductive ProjectionFault where
  | notItems (found : Value)
  | notItem (found : Value)
  | pairShape
  | unsupportedValue (key : String)
  | joinerNotText
  | nameNotText (found : Value)
  | noEntries
  | overlong

namespace ProjectionFault

def message : ProjectionFault → String
  | .notItems found => "projections must be a string, list or map, got " ++ found.typeName
  | .notItem found => "unsupported projection item: " ++ found.typeName
  | .pairShape => "projection pairs must be [key, value] or [key, value, FOLLOW]"
  | .unsupportedValue key => "unsupported projection value for " ++ quoted key
  | .joinerNotText => "projection join must be a string"
  | .nameNotText found => "projection aliases must be strings, got " ++ found.typeName
  | .noEntries => "projection map has no aliased entries"
  | .overlong => overlongMessage

def className : ProjectionFault → String
  | .overlong => "ValueError"
  | _ => "TypeError"

end ProjectionFault

namespace Projection

/-- The joiner of a map, any text; a value that does not hold counts as none. -/
def joinerOf (entries : Entries) : Except ProjectionFault String :=
  match (entries.marked? .join).filter Value.holds with
  | none => .ok entryJoiner
  | some (.text joiner) => .ok joiner
  | some _ => .error .joinerNotText

def isFollow : Value → Bool
  | .marker .follow => true
  | _ => false

mutual

def readItem : Value → Except ProjectionFault (List Projection)
  | .projection item => .ok [item]
  | .text name => .ok [.field name]
  | .map entries => do
      let joiner ← joinerOf entries
      match ← readObjects joiner entries with
      | [] => .error .noEntries
      | objects => .ok objects
  | .list parts => do .ok [← readPair parts]
  | .tuple parts => do .ok [← readPair parts]
  | found => .error (.notItem found)
termination_by structural value => value

/-- A key with a value that may be a pair again, or with a third item, where a list stands for the
items of the referenced document. -/
def readPair : List Value → Except ProjectionFault Projection
  | [.text key, value] =>
      match value with
      | .projection item => .ok (.entryOf key item)
      | .list parts => do .ok (.entryOf key (← readPair parts))
      | .tuple parts => do .ok (.entryOf key (← readPair parts))
      | value => do
          let text ← value.readScalar (.unsupportedValue key) .overlong
          .ok (.entry key text)
  | [.text key, value, flag] =>
      match value with
      | .list items => do .ok (.referenceOf key (← readItems items) (isFollow flag))
      | .tuple items => do .ok (.referenceOf key (← readItems items) (isFollow flag))
      | value => do
          let text ← value.readScalar (.unsupportedValue key) .overlong
          .ok (.reference key text (isFollow flag))
  | _ => .error .pairShape
termination_by structural parts => parts

def readItems : List Value → Except ProjectionFault (List Projection)
  | [] => .ok []
  | item :: rest => do
      let items ← readItem item
      let others ← readItems rest
      .ok (items ++ others)
termination_by structural items => items

/-- One object per name of a map; markers are passed over. A value that is no list is the only
item of its object. -/
def readObjects (joiner : String) : List (Value × Value) → Except ProjectionFault (List Projection)
  | [] => .ok []
  | (key, value) :: rest =>
      match key with
      | .marker _ => readObjects joiner rest
      | .text name => do
          let items ← match value with
            | .list items => readItems items
            | .tuple items => readItems items
            | item => readItem item
          let objects ← readObjects joiner rest
          .ok (.object name items joiner :: objects)
      | key => .error (.nameNotText key)
termination_by structural entries => entries

end

def read : Value → Except ProjectionFault (List Projection)
  | .list items => readItems items
  | .tuple items => readItems items
  | .text name => readItem (.text name)
  | .map entries => readItem (.map entries)
  | .projection item => .ok [item]
  | found => .error (.notItems found)

end Projection

end GroqQuery
