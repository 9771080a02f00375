import GroqQuery.Decimal.Numeral
import GroqQuery.Proofs.Decimal.Shortest
import GroqQuery.Proofs.Text.Numbers
import Mathlib.Data.List.DropRight

/-!
What the text of a binary number denotes. Whether a decimal is written positionally or with an
exponent, the digits and the place of the point give it back, and padding with zeros on either side
changes nothing. So every finite number has a text that denotes a decimal it is the nearest to.
-/

namespace GroqQuery.Binary64

open Text

/-- Digits without a zero in front, as a decimal begins with them. -/
structure AreSignificant (digits : List Char) : Prop where
  nonempty : digits ≠ []
  leading : digits.head? ≠ some '0'
  digits : ∀ char ∈ digits, char.isDigit = true

def decimalOf (digits : List Char) (point : Int) : ℚ :=
  Nat.ofDigitChars 10 digits 0 * 10 ^ (point - digits.length)

theorem decimal_of_shift (digits : List Char) (point shift : Int) :
    decimalOf digits (point + shift) = decimalOf digits point * 10 ^ shift := by
  rw [decimalOf, decimalOf, mul_assoc, ← zpow_add₀ (by norm_num)]
  congr 2
  ring

theorem of_digit_chars_append_eq (front back : List Char) :
    Nat.ofDigitChars 10 (front ++ back) 0 =
      10 ^ back.length * Nat.ofDigitChars 10 front 0 + Nat.ofDigitChars 10 back 0 := by
  rw [Nat.ofDigitChars_append, Nat.ofDigitChars_eq_ofDigitChars_zero]

theorem of_digit_chars_zeros (count : Nat) :
    Nat.ofDigitChars 10 (List.replicate count '0') 0 = 0 := by
  rw [Nat.ofDigitChars_replicate_zero, Nat.mul_zero]

theorem is_digit_of_mem_zeros (count : Nat) (char : Char)
    (member : char ∈ List.replicate count '0') : char.isDigit = true := by
  rw [List.eq_of_mem_replicate member]
  rfl

theorem decimal_of_append_zeros (digits : List Char) (count : Nat) (point : Int) :
    decimalOf (digits ++ List.replicate count '0') point = decimalOf digits point := by
  rw [decimalOf, decimalOf, of_digit_chars_append_eq, of_digit_chars_zeros, Nat.add_zero,
    List.length_append, List.length_replicate]
  push_cast
  rw [mul_comm ((10 : ℚ) ^ count), mul_assoc, ← zpow_natCast, ← zpow_add₀ (by norm_num)]
  congr 2
  ring

theorem decimal_of_zeros_append (digits : List Char) (count : Nat) (point : Int) :
    decimalOf (List.replicate count '0' ++ digits) (point + count) = decimalOf digits point := by
  rw [decimalOf, decimalOf, of_digit_chars_append_eq, of_digit_chars_zeros, Nat.mul_zero,
    Nat.zero_add, List.length_append, List.length_replicate]
  congr 2
  push_cast
  ring

theorem is_digits_of_list (chars : List Char) (nonempty : chars ≠ [])
    (digits : ∀ char ∈ chars, char.isDigit = true) :
    IsDigits (String.ofList chars) (Nat.ofDigitChars 10 chars 0) where
  nonempty := by simpa using nonempty
  digits := by simpa using digits
  denotes := by simp

theorem AreSignificant.is_numeral {digits : List Char} (significant : AreSignificant digits) :
    IsNumeral (String.ofList digits) (Nat.ofDigitChars 10 digits 0) where
  nonempty := by simpa using significant.nonempty
  digits := by simpa using significant.digits
  leading := by
    intro zero
    rw [String.toList_ofList] at zero
    exact absurd zero significant.leading
  denotes := by simp

theorem is_decimal_of_point (whole rest : List Char)
    (numeral : IsNumeral (String.ofList whole) (Nat.ofDigitChars 10 whole 0)) (nonempty : rest ≠ [])
    (digits : ∀ char ∈ rest, char.isDigit = true) :
    IsDecimal (String.ofList (whole ++ '.' :: rest)) (decimalOf (whole ++ rest) whole.length) := by
  have text : String.ofList (whole ++ '.' :: rest) =
      String.ofList whole ++ "." ++ String.ofList rest := by
    rw [← String.toList_inj]
    simp
  have value : decimalOf (whole ++ rest) whole.length =
      (Nat.ofDigitChars 10 whole 0 : ℚ) +
        Nat.ofDigitChars 10 rest 0 / 10 ^ (String.ofList rest).length := by
    rw [decimalOf, of_digit_chars_append_eq, String.length_ofList, List.length_append]
    push_cast
    rw [sub_add_cancel_left, zpow_neg, zpow_natCast]
    field_simp
  rw [text, value]
  exact .fraction numeral (is_digits_of_list rest nonempty digits)

theorem is_numeral_zero : IsNumeral (String.ofList ['0']) (Nat.ofDigitChars 10 ['0'] 0) :=
  is_numeral_repr 0

theorem AreSignificant.padded {digits : List Char} (significant : AreSignificant digits)
    (width count : Nat) (positive : 0 < width) :
    AreSignificant (digits.take width ++ List.replicate count '0') where
  nonempty := by simp [significant.nonempty, Nat.ne_of_gt positive]
  leading := by
    have first : (digits.take width ++ List.replicate count '0').head? = digits.head? := by
      cases digits with
      | nil => exact absurd rfl significant.nonempty
      | cons first rest =>
          obtain ⟨width, rfl⟩ := Nat.exists_eq_succ_of_ne_zero (Nat.ne_of_gt positive)
          rfl
    rw [first]
    exact significant.leading
  digits := by
    intro char member
    rcases List.mem_append.mp member with digit | zero
    · exact significant.digits char (List.mem_of_mem_take digit)
    · exact is_digit_of_mem_zeros count char zero

theorem is_decimal_of_small (digits : List Char) (significant : AreSignificant digits)
    (zeros : Nat) :
    IsDecimal (String.ofList ('0' :: '.' :: (List.replicate zeros '0' ++ digits)))
      (decimalOf digits (-zeros)) := by
  have digit : ∀ char ∈ List.replicate zeros '0' ++ digits, char.isDigit = true := by
    intro char member
    rcases List.mem_append.mp member with zero | digit
    · exact is_digit_of_mem_zeros zeros char zero
    · exact significant.digits char digit
  have decimal := is_decimal_of_point ['0'] (List.replicate zeros '0' ++ digits) is_numeral_zero
    (by simp [significant.nonempty]) digit
  have front : ['0'] ++ (List.replicate zeros '0' ++ digits) =
      List.replicate (zeros + 1) '0' ++ digits := rfl
  have place : ((['0'] : List Char).length : Int) = -zeros + (zeros + 1 : Nat) := by
    simp only [List.length_singleton]
    omega
  rw [front, place, decimal_of_zeros_append] at decimal
  exact decimal

theorem is_decimal_of_middle (digits : List Char) (significant : AreSignificant digits)
    (width : Nat) (positive : 0 < width) (long : width < digits.length) :
    IsDecimal (String.ofList (digits.take width ++ '.' :: digits.drop width))
      (decimalOf digits width) := by
  have whole := significant.padded width 0 positive
  rw [List.replicate_zero, List.append_nil] at whole
  have decimal := is_decimal_of_point (digits.take width) (digits.drop width) whole.is_numeral
    (by simpa using long) fun char member => significant.digits char (List.mem_of_mem_drop member)
  rw [List.take_append_drop, List.length_take_of_le long.le] at decimal
  exact decimal

theorem is_decimal_of_large (digits : List Char) (significant : AreSignificant digits)
    (width : Nat) (short : digits.length ≤ width) :
    IsDecimal (String.ofList (digits ++ List.replicate (width - digits.length) '0' ++ ['.', '0']))
      (decimalOf digits width) := by
  have positive : 0 < digits.length := List.length_pos_iff.mpr significant.nonempty
  have whole := significant.padded width (width - digits.length) (by omega)
  rw [List.take_of_length_le short] at whole
  have decimal := is_decimal_of_point _ ['0'] whole.is_numeral (by simp) (is_digit_of_mem_zeros 1)
  have place : (digits ++ List.replicate (width - digits.length) '0').length = width := by
    simp only [List.length_append, List.length_replicate]
    omega
  have zeros : digits ++ List.replicate (width - digits.length) '0' ++ ['0'] =
      digits ++ List.replicate (width - digits.length + 1) '0' := by
    rw [List.append_assoc, List.replicate_succ']
  rw [place, zeros, decimal_of_append_zeros] at decimal
  exact decimal

theorem positional_is_decimal (digits : List Char) (significant : AreSignificant digits)
    (point : Int) :
    IsDecimal (String.ofList (positional digits point)) (decimalOf digits point) := by
  dsimp only [positional]
  split
  next small =>
    have place : -((-point).toNat : Int) = point := by omega
    have decimal := is_decimal_of_small digits significant (-point).toNat
    rwa [place] at decimal
  next positive =>
    have place : (point.toNat : Int) = point := by omega
    split
    next none =>
      have short : digits.length ≤ point.toNat := by simpa using none
      have decimal := is_decimal_of_large digits significant point.toNat short
      rwa [List.take_of_length_le short, ← place]
    next some =>
      have long : point.toNat < digits.length := by simpa using some
      have decimal := is_decimal_of_middle digits significant point.toNat (by omega) long
      rwa [Nat.sub_eq_zero_of_le long.le, List.replicate_zero, List.append_nil, ← place]

def mantissa : List Char → List Char
  | [] => []
  | [lead] => [lead]
  | lead :: rest => lead :: '.' :: rest

theorem exponential_eq (digits : List Char) (exponent : Int) :
    exponential digits exponent = mantissa digits ++ 'e' :: (if exponent < 0 then '-' else '+') ::
      (List.replicate (2 - (Nat.toDigits 10 exponent.natAbs).length) '0' ++
        Nat.toDigits 10 exponent.natAbs) := rfl

theorem mantissa_is_decimal (digits : List Char) (significant : AreSignificant digits) :
    IsDecimal (String.ofList (mantissa digits)) (decimalOf digits 1) := by
  match digits with
  | [] => exact absurd rfl significant.nonempty
  | [lead] =>
      have numeral := IsDecimal.whole significant.is_numeral
      rwa [decimalOf, List.length_singleton, Nat.cast_one, sub_self, zpow_zero, mul_one]
  | lead :: second :: rest =>
      exact is_decimal_of_middle (lead :: second :: rest) significant 1 (by decide) (by simp)

theorem is_digits_exponent (size : Nat) :
    IsDigits (String.ofList (List.replicate (2 - (Nat.toDigits 10 size).length) '0' ++
      Nat.toDigits 10 size)) size := by
  have digits := is_digits_of_list
    (List.replicate (2 - (Nat.toDigits 10 size).length) '0' ++ Nat.toDigits 10 size)
    (by simp [Nat.toDigits_ne_nil]) (by
      intro char member
      rcases List.mem_append.mp member with zero | digit
      · exact is_digit_of_mem_zeros _ char zero
      · exact Nat.isDigit_of_mem_toDigits (by decide) (by decide) digit)
  rwa [of_digit_chars_append_eq, of_digit_chars_zeros, Nat.mul_zero, Nat.zero_add,
    Nat.ofDigitChars_ten_toDigits] at digits

theorem exponential_is_scaled (digits : List Char) (significant : AreSignificant digits)
    (exponent : Int) :
    IsScaled (String.ofList (exponential digits exponent)) (decimalOf digits (1 + exponent)) := by
  have mantissa := mantissa_is_decimal digits significant
  have size := is_digits_exponent exponent.natAbs
  have text : ∀ sign : Char, ∀ front back : List Char,
      String.ofList (front ++ 'e' :: sign :: back) =
        String.ofList front ++ "e" ++ String.ofList [sign] ++ String.ofList back := by
    intro sign front back
    rw [← String.toList_inj]
    simp
  rw [exponential_eq, text, decimal_of_shift]
  by_cases negative : exponent < 0
  · have value : (10 : ℚ) ^ exponent = (10 ^ exponent.natAbs)⁻¹ := by
      rw [← zpow_natCast, ← zpow_neg]
      congr 1
      omega
    rw [if_pos negative, value, ← div_eq_mul_inv]
    exact .lowered mantissa (by decide) size
  · have value : (10 : ℚ) ^ exponent = 10 ^ exponent.natAbs := by
      rw [← zpow_natCast]
      congr 1
      omega
    rw [if_neg negative, value]
    exact .raised mantissa (by decide) (by decide) size

theorem drop_trailing_zeros_append (digits : List Char) :
    ∃ count, digits = dropTrailingZeros digits ++ List.replicate count '0' := by
  have zeros : ∀ char ∈ digits.rtakeWhile (· == '0'), char = '0' := by
    intro char member
    simpa using List.mem_rtakeWhile_imp member
  refine ⟨(digits.rtakeWhile (· == '0')).length, ?_⟩
  rw [← List.eq_replicate_of_mem zeros]
  exact List.rdropWhile_append_rtakeWhile.symm

theorem drop_trailing_zeros_significant (number : Nat) (positive : 0 < number) :
    AreSignificant (dropTrailingZeros (Nat.toDigits 10 number)) := by
  obtain ⟨count, parts⟩ := drop_trailing_zeros_append (Nat.toDigits 10 number)
  have leading := head_to_digits_ne_zero number positive
  have nonempty : dropTrailingZeros (Nat.toDigits 10 number) ≠ [] := by
    intro empty
    rw [empty, List.nil_append] at parts
    cases count with
    | zero => exact Nat.toDigits_ne_nil parts
    | succ count => exact leading (by rw [parts]; rfl)
  constructor
  case nonempty => exact nonempty
  case leading => rwa [parts, List.head?_append_of_ne_nil _ nonempty] at leading
  case digits =>
    intro char member
    apply Nat.isDigit_of_mem_toDigits (by decide) (by decide) (n := number) (b := 10)
    rw [parts]
    exact List.mem_append_left _ member

theorem decimal_of_to_digits (number : Nat) (exponent : Int) :
    decimalOf (Nat.toDigits 10 number) ((Nat.toDigits 10 number).length + exponent) =
      number * 10 ^ exponent := by
  rw [decimalOf, Nat.ofDigitChars_ten_toDigits, add_sub_cancel_left]

/-- The text of a positive number denotes the shortest decimal that is read as it. -/
theorem magnitude_text_is_scaled (number : Binary64) (positive : 0 < number.significand) :
    IsScaled (String.ofList number.magnitudeText)
      (number.shortest.1 * 10 ^ number.shortest.2) := by
  have significant := drop_trailing_zeros_significant _ (number.shortest_pos positive)
  obtain ⟨count, parts⟩ := drop_trailing_zeros_append (Nat.toDigits 10 number.shortest.1)
  have value := decimal_of_to_digits number.shortest.1 number.shortest.2
  generalize place : ((Nat.toDigits 10 number.shortest.1).length : Int) + number.shortest.2 = point
    at value
  rw [parts, decimal_of_append_zeros] at value
  have nonzero : number.isZero = false := by
    simp [isZero, Nat.ne_of_gt positive]
  rw [magnitudeText, if_neg (by simp [nonzero]), ← value]
  dsimp only
  rw [place]
  split
  next => exact .plain (positional_is_decimal _ significant point)
  next =>
    have scaled := exponential_is_scaled _ significant (point - 1)
    rwa [add_sub_cancel] at scaled

theorem is_scaled_of_zero : IsScaled (String.ofList ['0', '.', '0']) 0 := by
  have decimal :=
    is_decimal_of_point ['0'] ['0'] is_numeral_zero (by simp) (is_digit_of_mem_zeros 1)
  have value : decimalOf (['0'] ++ ['0']) ((['0'] : List Char).length : Int) = 0 := by
    norm_num [decimalOf, Nat.ofDigitChars]
  rw [value] at decimal
  exact .plain decimal

theorem text_eq (number : Binary64) (finite : number.isFinite = true) :
    number.text = (if number.isNegative then "-" else "") ++
      String.ofList number.magnitudeText := by
  have counts : number.isNaN = false := by simp [isNaN, finite]
  rw [text, if_neg (by simp [counts]), ← String.toList_inj]
  cases number.isNegative <;> simp [finite]

/-- Every finite number is written as a number that it is the nearest to. -/
theorem text_is_number (number : Binary64) (finite : number.isFinite = true) :
    ∃ decimal, IsNumber number.text decimal ∧ number.IsNearest decimal := by
  obtain ⟨decimal, scaled, nearest⟩ : ∃ decimal : ℚ,
      IsScaled (String.ofList number.magnitudeText) decimal ∧
        number.IsNearest (if number.isNegative then -decimal else decimal) := by
    rcases Nat.eq_zero_or_pos number.significand with zero | positive
    · have text : number.magnitudeText = ['0', '.', '0'] := by
        rw [magnitudeText, if_pos (by simp [isZero, finite, zero])]
      rw [text]
      exact ⟨0, is_scaled_of_zero, by simpa using number.is_nearest_of_zero finite zero⟩
    · exact ⟨_, number.magnitude_text_is_scaled positive,
        number.is_nearest_of_admits finite positive _ (number.shortest_admitted positive)⟩
  refine ⟨_, ?_, nearest⟩
  rw [number.text_eq finite]
  cases number.isNegative with
  | true => exact .negated scaled
  | false => exact .unsigned (by simpa using scaled)

theorem text_of_not_finite (number : Binary64) (endless : number.isFinite = false) :
    number.text ∈ ["nan", "inf", "-inf"] := by
  unfold text
  split
  next => simp
  next =>
    have word : ¬number.isFinite = true := by simp [endless]
    dsimp only
    rw [if_neg word]
    cases number.isNegative <;> decide

end GroqQuery.Binary64
