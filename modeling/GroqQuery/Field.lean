import GroqQuery.Text.Capitals
import GroqQuery.Value

/-!
Records given as named fields. Every field is checked on its own, so that all that is wrong is
reported together, in the order in which the record declares its fields.
-/

namespace GroqQuery

structure FieldFault where
  field : String
  flaw : Flaw
  deriving DecidableEq, Repr

/-- Named values; of a repeated name the last one counts. -/
abbrev Fields := List (String × Value)

abbrev Checked (α : Type) := Except (List FieldFault) α

namespace Checked

def both {α β : Type} : Checked α → Checked β → Checked (α × β)
  | .ok left, .ok right => .ok (left, right)
  | .ok _, .error faults => .error faults
  | .error faults, .ok _ => .error faults
  | .error faults, .error more => .error (faults ++ more)

theorem both_eq_ok {α β : Type} {left : Checked α} {right : Checked β} {pair : α × β} :
    left.both right = .ok pair ↔ left = .ok pair.1 ∧ right = .ok pair.2 := by
  cases left <;> cases right <;> simp [both, Prod.ext_iff]

end Checked

namespace Fields

def get? (fields : Fields) (name : String) : Option Value :=
  (fields.reverse.find? fun field => field.1 = name).map (·.2)

def check {α : Type} (name : String) (result : Except Flaw α) : Checked α :=
  result.mapError fun flaw => [⟨name, flaw⟩]

def required {α : Type} (fields : Fields) (name : String) (read : Value → Except Flaw α) :
    Checked α :=
  match fields.get? name with
  | some value => check name (read value)
  | none => .error [⟨name, .missing⟩]

def optional {α : Type} (fields : Fields) (name : String) (read : Value → Except Flaw α)
    (default : α) : Checked α :=
  match fields.get? name with
  | some value => check name (read value)
  | none => .ok default

end Fields

namespace Value

/-- A marker is taken as its word. -/
def asText : Value → Except Flaw String
  | .text content => .ok content
  | .marker mark => .ok mark.word
  | .foreign object => object.asText
  | _ => .error .notText

def falseWords : List String := ["0", "OFF", "F", "FALSE", "N", "NO"]

def trueWords : List String := ["1", "ON", "T", "TRUE", "Y", "YES"]

/-- Numbers are read in 64 bits with a sign. -/
def numberBound : Int := twoTo 63

/-- Zero and one are flags. Another number is one that cannot be read. -/
def numberAsFlag (number : Int) : Except Flaw Bool :=
  if number = 0 then .ok false
  else if number = 1 then .ok true
  else .error .unreadableFlag

/-- A flag may be given as a word in any case or as one of the numbers zero and one. A number out of
bounds, or with a fraction, is no flag at all; the lower bound itself is taken as a whole number
but not as a floating-point one. -/
def asFlag : Value → Except Flaw Bool
  | .bool flag => .ok flag
  | .int number =>
      if -numberBound ≤ number ∧ number < numberBound then numberAsFlag number
      else .error .notFlag
  | .float number =>
      match number.whole? with
      | some whole =>
          if -numberBound < whole ∧ whole < numberBound then numberAsFlag whole
          else .error .notFlag
      | none => .error .notFlag
  | .text content =>
      let word := content.map Char.toUpper
      if word ∈ falseWords then .ok false
      else if word ∈ trueWords then .ok true
      else .error .unreadableFlag
  | .foreign object => object.asFlag
  | _ => .error .notFlag

end Value

end GroqQuery
