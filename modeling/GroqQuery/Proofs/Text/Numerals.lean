import Mathlib.Data.List.Basic

/-!
Decimal numerals of the numbers from zero on. A number has one numeral, with no sign, and with no
zero in front unless it is zero itself.
-/

namespace GroqQuery.Text

structure IsNumeral (text : String) (number : Nat) : Prop where
  nonempty : text ≠ ""
  digits : ∀ char ∈ text.toList, char.isDigit = true
  leading : text.toList.head? = some '0' → text = "0"
  denotes : Nat.ofDigitChars 10 text.toList 0 = number

theorem head_to_digits_ne_zero (number : Nat) (positive : 0 < number) :
    (Nat.toDigits 10 number).head? ≠ some '0' := by
  induction number using Nat.strongRecOn with
  | ind number induction =>
      by_cases short : number < 10
      · rw [Nat.toDigits_of_lt_base short, List.head?_cons, ne_eq, Option.some.injEq,
          Nat.digitChar_eq_zero]
        omega
      · have long : 10 ≤ number := by omega
        have shorter := induction (number / 10) (by omega) (by omega)
        have digits : Nat.toDigits 10 (number / 10) ≠ [] := Nat.toDigits_ne_nil
        rw [Nat.toDigits_of_base_le (by omega) long]
        cases parts : Nat.toDigits 10 (number / 10) with
        | nil => exact absurd parts digits
        | cons digit rest => rwa [parts] at shorter

theorem is_numeral_repr (number : Nat) : IsNumeral (Nat.repr number) number := by
  constructor
  case nonempty => exact Nat.repr_ne_empty
  case digits =>
    intro char member
    rw [Nat.toList_repr] at member
    exact Nat.isDigit_of_mem_toDigits (by omega) (by omega) member
  case leading =>
    intro zero
    rw [Nat.toList_repr] at zero
    rcases Nat.eq_zero_or_pos number with rfl | positive
    · rfl
    · exact absurd zero (head_to_digits_ne_zero number positive)
  case denotes => rw [Nat.toList_repr, Nat.ofDigitChars_ten_toDigits]

end GroqQuery.Text
