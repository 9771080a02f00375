import GroqQuery.Decimal.Whole
import Mathlib.Algebra.Ring.Nat

/-!
Which whole numbers have a numeral: those with few enough digits, which is to say those that are
closer to zero than a certain power of ten.
-/

namespace GroqQuery

def HasNumeral (number : Int) : Prop := number.natAbs < 10 ^ 4300

theorem length_digits_le_iff (number : Int) :
    (Nat.toDigits 10 number.natAbs).length ≤ digitLimit ↔ HasNumeral number := by
  have limit : digitLimit = 4300 := rfl
  rw [HasNumeral, ← limit]
  exact Nat.length_toDigits_le_iff (by omega) (by decide)

theorem numeral_eq_some_iff (number : Int) (text : String) :
    numeral? number = some text ↔ HasNumeral number ∧ toString number = text := by
  unfold numeral?
  by_cases short : HasNumeral number
  · simp [short, (length_digits_le_iff number).mpr short]
  · simp [short, mt (length_digits_le_iff number).mp short]

theorem numeral_of_short (number : Int) (short : HasNumeral number) :
    numeral? number = some (toString number) :=
  (numeral_eq_some_iff number _).mpr ⟨short, rfl⟩

theorem numeral_eq_none_iff (number : Int) : numeral? number = none ↔ ¬HasNumeral number := by
  unfold numeral?
  by_cases short : HasNumeral number
  · simp [short, (length_digits_le_iff number).mpr short]
  · simp [short, mt (length_digits_le_iff number).mp short]

theorem digit_lt_power (digit exponent : Nat) (single : digit < 10) :
    digit < 10 ^ (exponent + 1) := by
  have positive : 0 < 10 ^ exponent := Nat.pow_pos (by decide)
  rw [Nat.pow_succ]
  omega

theorem has_numeral_digit (digit : Nat) (single : digit < 10) : HasNumeral digit := by
  have next : 4300 = 4299 + 1 := rfl
  rw [HasNumeral, next]
  exact digit_lt_power digit 4299 single

/-- A number with a numeral; twice that number has none. -/
def longNumber : Int := (9 * 10 ^ 4299 : Nat)

theorem long_number_pos : 0 < longNumber := by
  have power : ∀ exponent, 0 < 9 * 10 ^ exponent := fun exponent =>
    Nat.mul_pos (by decide) (Nat.pow_pos (by decide))
  exact Int.natCast_pos.mpr (power 4299)

theorem power_le_nines (exponent : Nat) :
    10 ^ (exponent + 1) ≤ 9 * 10 ^ exponent + 9 * 10 ^ exponent := by
  rw [Nat.pow_succ]
  omega

theorem not_has_numeral_double : ¬HasNumeral (longNumber + longNumber) := by
  have next : 4300 = 4299 + 1 := rfl
  rw [HasNumeral, next, longNumber, ← Int.natCast_add, Int.natAbs_natCast]
  exact Nat.not_lt.mpr (power_le_nines 4299)

end GroqQuery
