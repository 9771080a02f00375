import GroqQuery.Value.Display

/-!
Reading filters from plain values. A map holds one clause per field and its clauses all have to
hold; a list inside another list is a group of alternatives, unless a marker map among its items
names the joiner or negates it. Finished clauses are taken as they are, wherever they stand.
-/

namespace GroqQuery

open Text

inductive FilterFault where
  | notClauses (found : Value)
  | keyNotText (found : Value)
  | noEntries
  | nestedNotScalar
  | unsupportedValue (key : String) (found : Value)
  | comparisonShape (key : String)
  | comparisonOptions (key : String)
  | notMember (found : Value)
  | mixedMarkers
  | unknownJoiner (shown : String)
  | emptyGroup
  | overlong

namespace FilterFault

def message : FilterFault → String
  | .notClauses found => "filters must be a map or a list, got " ++ found.typeName
  | .keyNotText found => "filter keys must be strings, got " ++ found.typeName
  | .noEntries => "filter map has no field entries"
  | .nestedNotScalar => "nested filter values must be literals"
  | .unsupportedValue key found =>
      "unsupported filter value for " ++ quoted key ++ ": " ++ found.typeName
  | .comparisonShape key =>
      "comparison for " ++ quoted key ++ " must be [operator, value, *markers]"
  | .comparisonOptions key => "comparison options for " ++ quoted key ++ " must be markers"
  | .notMember found => "filter groups may only contain maps and lists, got " ++ found.typeName
  | .mixedMarkers => "join/negate markers must be given in their own map"
  | .unknownJoiner shown =>
      "group join must be one of " ++ tupleText (Joiner.all.map fun joiner => quoted joiner.text)
        ++ ", got " ++ shown
  | .emptyGroup => "filter group has no clauses"
  | .overlong => overlongMessage

def className : FilterFault → String
  | .overlong => "ValueError"
  | _ => "TypeError"

/-- A joiner that is not known is named, unless it cannot be shown. -/
def ofJoiner (found : Value) : FilterFault :=
  match found.inspect? with
  | some shown => .unknownJoiner shown
  | none => .overlong

end FilterFault

namespace Entries

/-- Whether a map inside a group steers the group instead of adding clauses to it. A marker counts
here even with a value that does not hold. -/
def isMarking (entries : Entries) : Bool :=
  (entries.marked? .join).isSome || (entries.marked? .negate).isSome

end Entries

namespace Filter

/-- An operator, a value and any number of markers, of which only the negation means anything. The
markers are looked at before the value is written. -/
def readComparison (key : String) : List Value → Except FilterFault Filter
  | .text operator :: value :: options =>
      if value.isScalar && !options.all Value.isMarker then .error (.comparisonOptions key)
      else do
        let text ← value.readScalar (.comparisonShape key) .overlong
        let negated := options.any fun
          | .marker .negate => true
          | _ => false
        .ok (.compare key operator text negated)
  | _ => .error (.comparisonShape key)

def readEntry (nested : Bool) (key : String) (value : Value) : Except FilterFault Filter :=
  if nested then do
    let text ← value.readScalar .nestedNotScalar .overlong
    .ok (.call key text)
  else
    match value.items? with
    | some parts => readComparison key parts
    | none => do
        let text ← value.readScalar (.unsupportedValue key value) .overlong
        .ok (.equals key text)

/-- One clause per field; markers are passed over. -/
def readEntries (nested : Bool) : Entries → Except FilterFault (List Filter)
  | [] => .ok []
  | (.marker _, _) :: rest => readEntries nested rest
  | (.text key, value) :: rest => do
      let clause ← readEntry nested key value
      let clauses ← readEntries nested rest
      .ok (clause :: clauses)
  | (key, _) :: _ => .error (.keyNotText key)

def readMap (entries : Entries) : Except FilterFault (Filter × List Filter) := do
  match ← readEntries (entries.flag .nest) entries with
  | [] => .error .noEntries
  | first :: others => .ok (first, others)

/-- Several clauses that all have to hold form a group, a single one stands alone. -/
def conjunction (first : Filter) : List Filter → Filter
  | [] => first
  | others => .group first others .both false

/-- What one item of a nested list contributes to its group. -/
inductive Member where
  | clause (filter : Filter)
  | marking (entries : Entries)

namespace Member

def clause? : Member → Option Filter
  | .clause filter => some filter
  | .marking _ => none

def marking? : Member → Option Entries
  | .clause _ => none
  | .marking entries => some entries

end Member

/-- The joiner that counts: the first one that holds. -/
def namedJoiner? (markings : List Entries) : Option Value :=
  markings.findSome? fun entries => (entries.marked? .join).filter Value.holds

def joinerOf (markings : List Entries) : Except FilterFault Joiner :=
  match namedJoiner? markings with
  | none => .ok .either
  | some (.text name) =>
      match Joiner.ofText? name with
      | some joiner => .ok joiner
      | none => .error (.ofJoiner (.text name))
  | some found => .error (.ofJoiner found)

def groupOf (members : List Member) : Except FilterFault Filter := do
  let markings := members.filterMap Member.marking?
  let joiner ← joinerOf markings
  match members.filterMap Member.clause? with
  | [] => .error .emptyGroup
  | first :: others => .ok (.group first others joiner (markings.any (·.flag .negate)))

mutual

def readMember : Value → Except FilterFault Filter
  | .filter clause => .ok clause
  | .map entries => do
      let (first, others) ← readMap entries
      .ok (conjunction first others)
  | .list items => do groupOf (← readMembers items)
  | .tuple items => do groupOf (← readMembers items)
  | found => .error (.notMember found)
termination_by structural value => value

def readMembers : List Value → Except FilterFault (List Member)
  | [] => .ok []
  | item :: rest => do
      let member ← match item with
        | .map entries =>
            if Entries.isMarking entries then
              if entries.all fun entry => entry.1.isMarker then .ok (.marking entries)
              else .error .mixedMarkers
            else Member.clause <$> readMember item
        | _ => Member.clause <$> readMember item
      let members ← readMembers rest
      .ok (member :: members)
termination_by structural items => items

end

/-- The items of a top-level list. Its clauses all have to hold, so a map adds each of its own. -/
def readClauses : List Value → Except FilterFault (List Filter)
  | [] => .ok []
  | .map entries :: rest => do
      let (first, others) ← readMap entries
      let clauses ← readClauses rest
      .ok (first :: others ++ clauses)
  | item :: rest => do
      let clause ← readMember item
      let clauses ← readClauses rest
      .ok (clause :: clauses)

/-- Two items of which the first is a text are one clause, not a list of clauses. -/
def readList : List Value → Except FilterFault (List Filter)
  | [.text key, value] => do .ok [← readEntry false key value]
  | items => readClauses items

def read : Value → Except FilterFault (List Filter)
  | .filter clause => .ok [clause]
  | .map entries => do
      let (first, others) ← readMap entries
      .ok (first :: others)
  | .list items => readList items
  | .tuple items => readList items
  | found => .error (.notClauses found)

end Filter

end GroqQuery
