import GroqQuery.Value.Display

/-!
Messages with places for arguments. What a place may ask for, such as widths, precisions or further
conversions, is up to the formatter; that texts fill the places `%s` in order, and that `%%` is a
percent sign, holds for each of them.
-/

namespace GroqQuery

namespace Message

/-- How texts fill the places of a message. They are not looked through for places themselves. -/
inductive Fills : List Char → List String → List Char → Prop
  | done : Fills [] [] []
  | plain {char : Char} {rest filled : List Char} {texts : List String} :
      char ≠ '%' → Fills rest texts filled → Fills (char :: rest) texts (char :: filled)
  | percent {rest filled : List Char} {texts : List String} :
      Fills rest texts filled → Fills ('%' :: '%' :: rest) texts ('%' :: filled)
  | place {text : String} {rest filled : List Char} {texts : List String} :
      Fills rest texts filled →
      Fills ('%' :: 's' :: rest) (text :: texts) (text.toList ++ filled)

end Message

/-- What puts arguments into the places of a message, where they match. -/
structure Formatter where
  fill? : String → List Value → Option String
  fill_of_fills : ∀ {message filled : String} {texts : List String},
    Message.Fills message.toList texts filled.toList →
    fill? message (texts.map .text) = some filled

/-- Without arguments a message is taken as it stands. -/
def Formatter.text? (format : Formatter) (message : String) (arguments : List Value) :
    Option String :=
  if arguments.isEmpty then some message else format.fill? message arguments

namespace Message

def wholeNumber? : Value → Option Int
  | .bool flag => some (if flag then 1 else 0)
  | .int number => some number
  | .float number => number.wholePart?
  | _ => none

def place? (letter : Char) (argument : Value) : Option String :=
  match letter with
  | 's' => argument.display?
  | 'r' => argument.inspect?
  | 'd' => (wholeNumber? argument).bind numeral?
  | _ => none

/-- The text, and the arguments that no place took. -/
def fillPlaces : List Char → List Value → Option (List Char × List Value)
  | [], arguments => some ([], arguments)
  | '%' :: '%' :: rest, arguments => do
      let (text, unused) ← fillPlaces rest arguments
      some ('%' :: text, unused)
  | '%' :: letter :: rest, argument :: arguments => do
      let placed ← place? letter argument
      let (text, unused) ← fillPlaces rest arguments
      some (placed.toList ++ text, unused)
  | '%' :: _, _ => none
  | char :: rest, arguments => do
      let (text, unused) ← fillPlaces rest arguments
      some (char :: text, unused)

/-- A map with entries, given alone, may stay unused. -/
def mayStay : List Value → Bool
  | [] => true
  | [.map (_ :: _)] => true
  | _ => false

theorem fill_places_of_fills {message filled : List Char} {texts : List String}
    (fills : Fills message texts filled) :
    fillPlaces message (texts.map .text) = some (filled, []) := by
  induction fills with
  | done => rfl
  | plain other _ induction =>
      rw [fillPlaces, induction]
      · rfl
      all_goals simp [other]
  | percent _ induction =>
      rw [fillPlaces, induction]
      rfl
  | @place text rest filled texts _ induction =>
      change ((fillPlaces rest (texts.map .text)).bind fun filled => _) = _
      rw [induction]
      rfl

end Message

/-- The formatter for places that ask for no more than a conversion: `%s` takes a value as it is
displayed, `%r` as it is inspected, and `%d` as a whole number. -/
def Formatter.simple : Formatter where
  fill? message arguments := do
    let (text, unused) ← Message.fillPlaces message.toList arguments
    if unused.isEmpty || (unused.length == arguments.length && Message.mayStay arguments) then
      some (String.ofList text)
    else none
  fill_of_fills fills := by
    rw [Message.fill_places_of_fills fills]
    simp

end GroqQuery
