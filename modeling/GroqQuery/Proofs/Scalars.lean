import GroqQuery.Proofs.Decimal.Numeral
import GroqQuery.Proofs.Decimal.Whole
import GroqQuery.Value

/-!
How scalars are written. Nothing, flags and numbers are written as literals that stand for them;
floating-point numbers without a finite value are the exception, for they are written as words that
a query takes for fields. An operand of a clause or an item is a scalar, or the text of one that is
finished.
-/

namespace GroqQuery

open Text

namespace Value

def isText : Value → Bool
  | .text _ => true
  | _ => false

def isFinite : Value → Bool
  | .float number => number.isFinite
  | _ => true

/-- The literals of a scalar that is no text: its constant, or a number that is equal to it or, of a
floating-point number, one that it is the nearest to. -/
inductive IsWritten : Value → String → Prop
  | null : IsWritten .null "null"
  | holding : IsWritten (.bool true) "true"
  | failing : IsWritten (.bool false) "false"
  | int {number : Int} {text : String} : IsNumber text number → IsWritten (.int number) text
  | float {number : Binary64} {text : String} {decimal : ℚ} :
      number.isFinite = true → IsNumber text decimal → number.IsNearest decimal →
      IsWritten (.float number) text

theorem IsWritten.is_literal {value : Value} {text : String} (written : value.IsWritten text) :
    IsLiteral text := by
  cases written with
  | null => exact .inl (by decide)
  | holding => exact .inl (by decide)
  | failing => exact .inl (by decide)
  | int number => exact .inr ⟨_, number⟩
  | float finite number nearest => exact .inr ⟨_, number⟩

theorem is_written_of_finite (value : Value) (text : String) (scalar : value.scalar? = some text)
    (other : value.isText = false) (finite : value.isFinite = true) : value.IsWritten text := by
  cases value with
  | null =>
      cases scalar
      exact .null
  | bool flag =>
      cases flag with
      | true =>
          cases scalar
          exact .holding
      | false =>
          cases scalar
          exact .failing
  | int number =>
      obtain ⟨_, written⟩ := (numeral_eq_some_iff number text).mp scalar
      rw [← written]
      exact .int (is_number_of_int number)
  | float number =>
      cases scalar
      obtain ⟨decimal, denotes, nearest⟩ := number.text_is_number finite
      exact .float finite denotes nearest
  | text content => cases other
  | _ => cases scalar

theorem names_field_of_not_finite (value : Value) (text : String)
    (scalar : value.scalar? = some text) (endless : value.isFinite = false) :
    namesField text = true := by
  cases value with
  | float number =>
      cases scalar
      have each : ∀ word ∈ ["nan", "inf", "-inf"], namesField word = true := by decide
      exact each _ (number.text_of_not_finite endless)
  | _ => cases endless

theorem is_literal_iff (value : Value) (text : String) (scalar : value.scalar? = some text)
    (other : value.isText = false) : IsLiteral text ↔ value.isFinite = true := by
  constructor
  · intro literal
    by_contra endless
    have named := value.names_field_of_not_finite text scalar (by simpa using endless)
    rw [literal.not_names_field] at named
    cases named
  · intro finite
    exact (value.is_written_of_finite text scalar other finite).is_literal

theorem names_field_iff (value : Value) (text : String) (scalar : value.scalar? = some text)
    (other : value.isText = false) : namesField text = true ↔ value.isFinite = false := by
  constructor
  · intro named
    by_contra finite
    have literal := (value.is_literal_iff text scalar other).mpr (by simpa using finite)
    rw [literal.not_names_field] at named
    cases named
  · exact value.names_field_of_not_finite text scalar

end Value

/-- What stands where an operand is taken: a value that is still to be written, or the text of a
clause or an item that is finished. -/
inductive Operand where
  | given (value : Value)
  | finished (text : String)

namespace Operand

/-- How operands appear in a query. What is finished is left as it is. -/
inductive Appears : Operand → String → Prop
  | finished (text : String) : Appears (.finished text) text
  | given {value : Value} {text : String} :
      value.scalar? = some text → Appears (.given value) text

theorem appear_finished (texts : List String) :
    List.Forall₂ Appears (texts.map .finished) texts := by
  induction texts with
  | nil => exact .nil
  | cons text texts induction => exact .cons (.finished text) induction

theorem appears_at (operands : List Operand) (texts : List String)
    (appear : List.Forall₂ Appears operands texts) (value : Value) (text : String)
    (scalar : value.scalar? = some text) (place : Nat)
    (stands : operands[place]? = some (.given value)) : texts[place]? = some text := by
  induction appear generalizing place with
  | nil => cases stands
  | cons first later induction =>
      cases place with
      | zero =>
          rw [List.getElem?_cons_zero, Option.some.injEq] at stands
          subst stands
          cases first with
          | given written => rw [List.getElem?_cons_zero, ← written, scalar]
      | succ place =>
          rw [List.getElem?_cons_succ] at stands
          exact induction place stands

end Operand

end GroqQuery
