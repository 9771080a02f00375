import GroqQuery.Value.Display

/-!
The settings of the library, by name, and as a running program holds them.
-/

namespace GroqQuery

inductive Setting where
  | logLevel
  | baseQuery
  | includeDrafts
  | draftsPath
  deriving DecidableEq, Repr

namespace Setting

def all : List Setting := [.logLevel, .baseQuery, .includeDrafts, .draftsPath]

def name : Setting → String
  | .logLevel => "LOG_LEVEL"
  | .baseQuery => "GROQ_BASE_QUERY"
  | .includeDrafts => "GROQ_INCLUDE_DRAFTS"
  | .draftsPath => "GROQ_DRAFTS_PATH"

def ofName? (name : String) : Option Setting :=
  named? all Setting.name name

end Setting

/-- The settings as a running program reads them. They may be assigned without a check, so that any
value can stand in them. -/
structure Preferences where
  logLevel : Value
  baseQuery : Value
  includeDrafts : Value
  draftsPath : Value

namespace Preferences

def assign (preferences : Preferences) (setting : Setting) (value : Value) : Preferences :=
  match setting with
  | .logLevel => { preferences with logLevel := value }
  | .baseQuery => { preferences with baseQuery := value }
  | .includeDrafts => { preferences with includeDrafts := value }
  | .draftsPath => { preferences with draftsPath := value }

end Preferences

end GroqQuery
