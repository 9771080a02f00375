import GroqQuery.Text.Blank

/-!
Files of environment variables, one `NAME=VALUE` to a line. A line that is blank, holds only a
comment or has any other form sets nothing.
-/

namespace GroqQuery.EnvFile

open Text

def isLineEnd (char : Char) : Bool := char == '\n' || char == '\r'

/-- The lines of a text. A carriage return ends a line as a line feed does; the empty line between
the two of them sets nothing. -/
def lines : List Char → List (List Char)
  | [] => [[]]
  | char :: rest =>
      if isLineEnd char then [] :: lines rest
      else match lines rest with
        | [] => [[char]]
        | line :: others => (char :: line) :: others

/-- An `export` before the name is passed over if a blank separates the two. -/
def dropExport (line : List Char) : List Char :=
  let word := "export".toList
  if word.isPrefixOf line then
    let rest := line.drop word.length
    match rest with
    | char :: _ => if isBlank char then trimStart rest else line
    | [] => line
  else line

def isNameChar (char : Char) : Bool :=
  char != '=' && char != '#' && !isBlank char

/-- Nothing but a comment may follow a quoted value. -/
def endsLine (rest : List Char) : Bool :=
  match trimStart rest with
  | [] => true
  | char :: _ => char == '#'

/-- An unquoted value goes on to the end of the line or to a `#` behind a blank. -/
def unquoted : List Char → List Char
  | [] => []
  | char :: rest =>
      if isBlank char && (trimStart rest).head? == some '#' then []
      else char :: unquoted rest

def quotedValue? (mark : Char) (rest : List Char) : Option (List Char) :=
  let value := rest.takeWhile (· != mark)
  match rest.dropWhile (· != mark) with
  | [] => none
  | _ :: behind => if endsLine behind then some value else none

def value? (rest : List Char) : Option (List Char) :=
  match trimStart rest with
  | '\'' :: behind => quotedValue? '\'' behind
  | '"' :: behind => quotedValue? '"' behind
  | chars => some (trimEnd (unquoted chars))

/-- The name and the value that one line sets. -/
def assignment? (line : List Char) : Option (String × String) :=
  let line := dropExport (trimStart line)
  let name := line.takeWhile isNameChar
  match name, trimStart (line.dropWhile isNameChar) with
  | [], _ => none
  | _, '=' :: rest => (value? rest).map fun value => (String.ofList name, String.ofList value)
  | _, _ => none

/-- A name that is set again keeps its place and takes the new value. -/
def put (assigned : List (String × String)) (entry : String × String) : List (String × String) :=
  if assigned.any fun present => present.1 = entry.1 then
    assigned.map fun present => if present.1 = entry.1 then entry else present
  else assigned ++ [entry]

def assignments (text : String) : List (String × String) :=
  ((lines text.toList).filterMap assignment?).foldl put []

end GroqQuery.EnvFile
