import GroqQuery.Proofs.Text.Numerals
import Mathlib.Algebra.Field.Rat

/-!
Numbers as they stand in a query, and the other literals that are not quoted. A number has digits
and, as far as it needs them, a minus, a fraction and a power of ten; the rules give the number that
such a text stands for. Any other word, unless it is one of the constants, is taken for a field.
-/

namespace GroqQuery.Text

/-- Digits of a number. Unlike in a numeral, there may be zeros in front. -/
structure IsDigits (text : String) (number : Nat) : Prop where
  nonempty : text ≠ ""
  digits : ∀ char ∈ text.toList, char.isDigit = true
  denotes : Nat.ofDigitChars 10 text.toList 0 = number

/-- A numeral, with a point and the digits of a fraction behind it if there is one. -/
inductive IsDecimal : String → ℚ → Prop
  | whole {text : String} {number : Nat} :
      IsNumeral text number → IsDecimal text number
  | fraction {text rest : String} {number part : Nat} :
      IsNumeral text number → IsDigits rest part →
      IsDecimal (text ++ "." ++ rest) (number + part / 10 ^ rest.length)

/-- A decimal, with the power of ten that it is multiplied with if there is one. -/
inductive IsScaled : String → ℚ → Prop
  | plain {text : String} {value : ℚ} : IsDecimal text value → IsScaled text value
  | raised {text mark sign digits : String} {value : ℚ} {exponent : Nat} :
      IsDecimal text value → mark ∈ ["e", "E"] → sign ∈ ["", "+"] → IsDigits digits exponent →
      IsScaled (text ++ mark ++ sign ++ digits) (value * 10 ^ exponent)
  | lowered {text mark digits : String} {value : ℚ} {exponent : Nat} :
      IsDecimal text value → mark ∈ ["e", "E"] → IsDigits digits exponent →
      IsScaled (text ++ mark ++ "-" ++ digits) (value / 10 ^ exponent)

inductive IsNumber : String → ℚ → Prop
  | unsigned {text : String} {value : ℚ} : IsScaled text value → IsNumber text value
  | negated {text : String} {value : ℚ} : IsScaled text value → IsNumber ("-" ++ text) (-value)

def constants : List String := ["null", "true", "false"]

/-- A text that stands for a scalar by itself, without a quote. -/
def IsLiteral (text : String) : Prop := text ∈ constants ∨ ∃ value, IsNumber text value

def isName (text : String) : Bool :=
  match text.toList with
  | [] => false
  | first :: rest =>
      (first.isAlpha || first = '_') && rest.all fun char => char.isAlphanum || char = '_'

/-- Whether a query takes the text for a field. A minus in front negates what the field holds. -/
def namesField (text : String) : Bool :=
  let word := match text.toList with
    | '-' :: rest => String.ofList rest
    | _ => text
  isName word && word ∉ constants

theorem is_alpha_of_is_digit (char : Char) (digit : char.isDigit = true) :
    char.isAlpha = false := by
  delta Char.isDigit at digit
  delta Char.isAlpha Char.isUpper Char.isLower
  simp only [Bool.and_eq_true, Bool.or_eq_false_iff, Bool.and_eq_false_iff, decide_eq_true_eq,
    decide_eq_false_iff_not, ge_iff_le, UInt32.le_iff_toNat_le] at digit ⊢
  simp at digit ⊢
  omega

/-- What a number starts with behind its minus. -/
def StartsWithDigit (text : String) : Prop :=
  ∃ first rest, text.toList = first :: rest ∧ first.isDigit = true

namespace StartsWithDigit

theorem append {text : String} (starts : StartsWithDigit text) (behind : String) :
    StartsWithDigit (text ++ behind) := by
  obtain ⟨first, rest, chars, digit⟩ := starts
  exact ⟨first, rest ++ behind.toList, by simp [chars], digit⟩

theorem not_is_name {text : String} (starts : StartsWithDigit text) : isName text = false := by
  obtain ⟨first, rest, chars, digit⟩ := starts
  have letter := is_alpha_of_is_digit first digit
  have underscore : first ≠ '_' := by
    intro same
    subst same
    cases digit
  simp [isName, chars, letter, underscore]

theorem not_names_field {text : String} (starts : StartsWithDigit text) :
    namesField text = false := by
  have name := starts.not_is_name
  obtain ⟨first, rest, chars, digit⟩ := starts
  have minus : first ≠ '-' := by
    intro same
    subst same
    cases digit
  unfold namesField
  split
  next other same =>
    rw [chars, List.cons.injEq] at same
    exact absurd same.1 minus
  next => simp [name]

theorem not_names_field_negated {text : String} (starts : StartsWithDigit text) :
    namesField ("-" ++ text) = false := by
  have chars : ("-" ++ text).toList = '-' :: text.toList := by simp
  simp [namesField, chars, starts.not_is_name]

end StartsWithDigit

theorem IsNumeral.starts_with_digit {text : String} {number : Nat}
    (numeral : IsNumeral text number) : StartsWithDigit text := by
  have nonempty : text.toList ≠ [] := by simpa using numeral.nonempty
  cases chars : text.toList with
  | nil => exact absurd chars nonempty
  | cons first rest => exact ⟨first, rest, chars, numeral.digits first (by simp [chars])⟩

theorem IsDecimal.starts_with_digit {text : String} {value : ℚ} (decimal : IsDecimal text value) :
    StartsWithDigit text := by
  cases decimal with
  | whole numeral => exact numeral.starts_with_digit
  | fraction numeral _ => exact (numeral.starts_with_digit.append _).append _

theorem IsScaled.starts_with_digit {text : String} {value : ℚ} (scaled : IsScaled text value) :
    StartsWithDigit text := by
  cases scaled with
  | plain decimal => exact decimal.starts_with_digit
  | raised decimal _ _ _ => exact ((decimal.starts_with_digit.append _).append _).append _
  | lowered decimal _ _ => exact ((decimal.starts_with_digit.append _).append _).append _

theorem IsNumber.not_names_field {text : String} {value : ℚ} (number : IsNumber text value) :
    namesField text = false := by
  cases number with
  | unsigned scaled => exact scaled.starts_with_digit.not_names_field
  | negated scaled => exact scaled.starts_with_digit.not_names_field_negated

theorem IsLiteral.not_names_field {text : String} (literal : IsLiteral text) :
    namesField text = false := by
  rcases literal with constant | ⟨value, number⟩
  · have each : ∀ text ∈ constants, namesField text = false := by decide
    exact each text constant
  · exact number.not_names_field

theorem is_number_of_nat (number : Nat) : IsNumber (Nat.repr number) number :=
  .unsigned (.plain (.whole (is_numeral_repr number)))

theorem is_number_of_int (number : Int) : IsNumber (toString number) number := by
  cases number with
  | ofNat size => exact_mod_cast is_number_of_nat size
  | negSucc size =>
      have negated := IsNumber.negated (.plain (.whole (is_numeral_repr (size + 1))))
      rw [Int.cast_negSucc]
      exact negated

end GroqQuery.Text
