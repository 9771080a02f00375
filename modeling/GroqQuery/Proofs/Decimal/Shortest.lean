import GroqQuery.Decimal.Shortest
import Mathlib.Algebra.Order.Field.Power
import Mathlib.Algebra.Order.Field.Rat
import Mathlib.Tactic.FieldSimp
import Mathlib.Tactic.Linarith
import Mathlib.Tactic.NormNum
import Mathlib.Tactic.Positivity
import Mathlib.Tactic.Ring

/-!
Which binary number a decimal is read as. Reading takes the nearest number, so a decimal is read as
a number if it lies within half of the gap to the next one on its side. The grids that are searched
for the shortest decimal have a point in there, at the latest the finest of them.
-/

namespace GroqQuery

theorem zpow_eq_div (base : ℚ) (exponent : Int) :
    base ^ exponent = base ^ exponent.toNat / base ^ (-exponent).toNat := by
  obtain ⟨size, rfl | rfl⟩ := exponent.eq_nat_or_neg
  · simp
  · simp

/-- Whatever is twice as far away as the ends are is farther away from all between the ends. -/
theorem abs_sub_le_of_within {low middle high value decimal : ℚ} (below : low ≤ middle)
    (above : middle ≤ high) (outside : value ≤ 2 * low - middle ∨ 2 * high - middle ≤ value)
    (within : low ≤ decimal ∧ decimal ≤ high) : |decimal - middle| ≤ |decimal - value| := by
  apply abs_le.mpr
  rcases outside with less | more
  · rw [abs_of_nonneg (by linarith)]
    constructor <;> linarith
  · rw [abs_of_nonpos (by linarith)]
    constructor <;> linarith

theorem abs_sub_lt_of_within {low middle high value decimal : ℚ} (below : low < middle)
    (above : middle < high) (outside : value ≤ 2 * low - middle ∨ 2 * high - middle ≤ value)
    (within : low < decimal ∧ decimal < high) : |decimal - middle| < |decimal - value| := by
  apply abs_lt.mpr
  rcases outside with less | more
  · rw [abs_of_nonneg (by linarith)]
    constructor <;> linarith
  · rw [abs_of_nonpos (by linarith)]
    constructor <;> linarith

theorem cast_two_to (exponent : Nat) : (twoTo exponent : ℚ) = 2 ^ exponent := by
  simp [twoTo]

theorem two_to_le {small large : Nat} (bounded : small ≤ large) : twoTo small ≤ twoTo large :=
  Nat.pow_le_pow_right (by decide) bounded

theorem cast_ten_to (exponent : Nat) : (tenTo exponent : ℚ) = 10 ^ exponent := by
  simp [tenTo]

namespace Binary64

def value (number : Binary64) : ℚ :=
  match number.ratio? with
  | some (above, below) => above / below
  | none => 0

def magnitude (number : Binary64) : ℚ := number.significand * 2 ^ number.unitExponent

/-- No other finite number is nearer to the decimal, and if another one is as near, this number is
the one with the even significand. -/
def IsNearest (number : Binary64) (decimal : ℚ) : Prop :=
  ∀ other : Binary64, other.isFinite = true → other.value ≠ number.value →
    |decimal - number.value| < |decimal - other.value| ∨
      |decimal - number.value| = |decimal - other.value| ∧ number.significand % 2 = 0

theorem value_eq (number : Binary64) (finite : number.isFinite = true) :
    number.value = if number.isNegative then -number.magnitude else number.magnitude := by
  have magnitude : ((number.significand * twoTo number.unitExponent.toNat : Nat) : ℚ) /
      twoTo (-number.unitExponent).toNat = number.magnitude := by
    rw [Binary64.magnitude, zpow_eq_div, Nat.cast_mul, cast_two_to, cast_two_to, mul_div_assoc]
  unfold value ratio?
  rw [if_pos finite]
  cases number.isNegative with
  | true => simp [← magnitude, neg_div]
  | false => simp [← magnitude]

theorem magnitude_nonneg (number : Binary64) : 0 ≤ number.magnitude := by
  unfold magnitude
  positivity

theorem abs_value (number : Binary64) (finite : number.isFinite = true) :
    |number.value| = number.magnitude := by
  have nonneg := number.magnitude_nonneg
  rw [number.value_eq finite]
  split
  next => rw [abs_neg, abs_of_nonneg nonneg]
  next => rw [abs_of_nonneg nonneg]

theorem fraction_lt (number : Binary64) : number.fraction < 2 ^ 52 :=
  Nat.mod_lt _ (Nat.pow_pos (by decide))

theorem significand_lt (number : Binary64) : number.significand < 2 ^ 53 := by
  have bound := number.fraction_lt
  have implied : twoTo 52 = 2 ^ 52 := rfl
  unfold significand
  split <;> omega

theorem significand_of_biased (number : Binary64) (normal : 0 < number.biasedExponent) :
    number.significand = number.fraction + 2 ^ 52 :=
  if_neg (Nat.ne_of_gt normal)

def quarter (number : Binary64) : ℚ := 2 ^ (number.unitExponent - 2)

theorem quarter_pos (number : Binary64) : 0 < number.quarter :=
  zpow_pos (by norm_num) _

/-- Half of the gap below a positive number, in quarters. Half of the gap above is always two. -/
def halfGap (number : Binary64) : Nat :=
  if number.fraction = 0 ∧ 1 < number.biasedExponent then 1 else 2

theorem half_gap_pos (number : Binary64) : 0 < number.halfGap := by
  unfold halfGap
  split <;> omega

theorem half_gap_le (number : Binary64) : number.halfGap ≤ 2 := by
  unfold halfGap
  split <;> omega

theorem magnitude_eq (number : Binary64) :
    number.magnitude = 4 * number.significand * number.quarter := by
  rw [magnitude, quarter, zpow_sub₀ (by norm_num)]
  norm_num
  ring

theorem magnitude_of_smaller (number other : Binary64)
    (smaller : other.unitExponent < number.unitExponent) :
    other.magnitude ≤ (4 * number.significand - 2 * number.halfGap) * number.quarter := by
  have normal : 1 < number.biasedExponent := by
    unfold unitExponent at smaller
    omega
  have implied := number.significand_of_biased (by omega)
  have size : (other.significand : ℚ) ≤ 2 ^ 53 - 1 := by
    have bound := other.significand_lt
    rw [le_sub_iff_add_le]
    exact_mod_cast bound
  have unit : (2 : ℚ) ^ other.unitExponent ≤ 2 * number.quarter := by
    calc (2 : ℚ) ^ other.unitExponent
        ≤ 2 ^ (number.unitExponent - 2 + 1) := zpow_le_zpow_right₀ (by norm_num) (by omega)
      _ = 2 * number.quarter := by rw [zpow_add_one₀ (by norm_num), quarter, mul_comm]
  have room : (2 : ℚ) ^ 54 - 2 ≤ 4 * number.significand - 2 * number.halfGap := by
    rw [implied, halfGap]
    split
    next least =>
      rw [least.1]
      norm_num
    next other =>
      have fraction : 1 ≤ (number.fraction : ℚ) := by
        have positive : 1 ≤ number.fraction := by omega
        exact_mod_cast positive
      push_cast
      linarith
  calc other.magnitude
      ≤ (2 ^ 53 - 1) * (2 * number.quarter) :=
        mul_le_mul size unit (by positivity) (by norm_num)
    _ = (2 ^ 54 - 2) * number.quarter := by ring
    _ ≤ _ := mul_le_mul_of_nonneg_right room number.quarter_pos.le

theorem magnitude_of_larger (number other : Binary64)
    (larger : number.unitExponent ≤ other.unitExponent) :
    ∃ count : Nat, other.magnitude = 4 * count * number.quarter := by
  obtain ⟨shift, same⟩ := Int.le.dest larger
  refine ⟨other.significand * 2 ^ shift, ?_⟩
  rw [magnitude, quarter, ← same, zpow_add₀ (by norm_num), zpow_sub₀ (by norm_num), zpow_natCast]
  push_cast
  ring

/-- Between a number and the ends of its two gaps there is no other. -/
theorem magnitude_apart (number other : Binary64) (apart : other.magnitude ≠ number.magnitude) :
    other.magnitude ≤ (4 * number.significand - 2 * number.halfGap) * number.quarter ∨
      (4 * number.significand + 4) * number.quarter ≤ other.magnitude := by
  have positive := number.quarter_pos
  rcases lt_or_ge other.unitExponent number.unitExponent with smaller | larger
  · exact .inl (number.magnitude_of_smaller other smaller)
  · obtain ⟨count, same⟩ := number.magnitude_of_larger other larger
    have differs : count ≠ number.significand := by
      intro equal
      rw [same, equal, ← magnitude_eq] at apart
      exact apart rfl
    have gap : (number.halfGap : ℚ) ≤ 2 := by exact_mod_cast number.half_gap_le
    rcases Nat.lt_or_gt_of_ne differs with less | more
    · left
      have step : (count : ℚ) + 1 ≤ number.significand := by exact_mod_cast less
      rw [same]
      apply mul_le_mul_of_nonneg_right _ positive.le
      linarith
    · right
      have step : (number.significand : ℚ) + 1 ≤ count := by exact_mod_cast more
      rw [same]
      apply mul_le_mul_of_nonneg_right _ positive.le
      linarith

namespace Rounding

def Admits (interval : Rounding) (decimal : ℚ) : Prop :=
  if interval.closed then
    (interval.low / interval.denominator : ℚ) ≤ decimal ∧
      decimal ≤ (interval.high / interval.denominator : ℚ)
  else
    (interval.low / interval.denominator : ℚ) < decimal ∧
      decimal < (interval.high / interval.denominator : ℚ)

theorem le_point_iff (interval : Rounding) (positive : 0 < interval.denominator)
    (bound digits : Nat) (exponent : Int) :
    bound * tenTo (-exponent).toNat ≤ digits * tenTo exponent.toNat * interval.denominator ↔
      (bound / interval.denominator : ℚ) ≤ digits * 10 ^ exponent := by
  have denominator : (0 : ℚ) < interval.denominator := by exact_mod_cast positive
  rw [div_le_iff₀ denominator, zpow_eq_div, mul_div_assoc', div_mul_eq_mul_div,
    le_div_iff₀ (by positivity), ← cast_ten_to, ← cast_ten_to]
  exact_mod_cast Iff.rfl

theorem point_le_iff (interval : Rounding) (positive : 0 < interval.denominator)
    (bound digits : Nat) (exponent : Int) :
    digits * tenTo exponent.toNat * interval.denominator ≤ bound * tenTo (-exponent).toNat ↔
      (digits * 10 ^ exponent : ℚ) ≤ bound / interval.denominator := by
  have denominator : (0 : ℚ) < interval.denominator := by exact_mod_cast positive
  rw [le_div_iff₀ denominator, zpow_eq_div, mul_div_assoc', div_mul_eq_mul_div,
    div_le_iff₀ (by positivity), ← cast_ten_to, ← cast_ten_to]
  exact_mod_cast Iff.rfl

theorem holds_iff (interval : Rounding) (positive : 0 < interval.denominator) (digits : Nat)
    (exponent : Int) :
    interval.holds digits exponent = true ↔ interval.Admits (digits * 10 ^ exponent) := by
  unfold holds Admits
  cases interval.closed with
  | true =>
      simp [interval.le_point_iff positive, interval.point_le_iff positive]
  | false =>
      simp [← not_le, interval.le_point_iff positive, interval.point_le_iff positive]

end Rounding

theorem rounding_denominator_pos (number : Binary64) : 0 < number.rounding.denominator :=
  Nat.pow_pos (by decide)

theorem scaled_quarters (number : Binary64) (count : Nat) :
    ((count * twoTo (number.unitExponent - 2).toNat : Nat) : ℚ) / number.rounding.denominator =
      count * number.quarter := by
  have denominator : number.rounding.denominator = twoTo (-(number.unitExponent - 2)).toNat := rfl
  rw [denominator, quarter, zpow_eq_div, Nat.cast_mul, cast_two_to, cast_two_to, mul_div_assoc]

theorem rounding_low (number : Binary64) (positive : 0 < number.significand) :
    (number.rounding.low / number.rounding.denominator : ℚ) =
      (4 * number.significand - number.halfGap) * number.quarter := by
  have gap := number.half_gap_le
  have low := number.scaled_quarters (4 * number.significand - number.halfGap)
  rw [Nat.cast_sub (by omega)] at low
  push_cast at low
  exact_mod_cast low

theorem rounding_high (number : Binary64) :
    (number.rounding.high / number.rounding.denominator : ℚ) =
      (4 * number.significand + 2) * number.quarter := by
  have high := number.scaled_quarters (4 * number.significand + 2)
  push_cast at high
  exact_mod_cast high

/-- Within half of the gap, this number is the nearest of all. At an end of the interval it is as
far away as the next one, and then its significand is even. -/
theorem nearer_of_admits (number other : Binary64) (positive : 0 < number.significand)
    (decimal value : ℚ) (admits : number.rounding.Admits decimal)
    (size : |value| = other.magnitude) (apart : value ≠ number.magnitude) :
    |decimal - number.magnitude| < |decimal - value| ∨
      |decimal - number.magnitude| = |decimal - value| ∧ number.significand % 2 = 0 := by
  have quarterPos := number.quarter_pos
  have one : (1 : ℚ) ≤ number.significand := by exact_mod_cast positive
  have gapPos : (0 : ℚ) < number.halfGap := by exact_mod_cast number.half_gap_pos
  have gapLe : (number.halfGap : ℚ) ≤ 2 := by exact_mod_cast number.half_gap_le
  have apartFrom : value ≤ (4 * number.significand - 2 * number.halfGap) * number.quarter ∨
      (4 * number.significand + 4) * number.quarter ≤ value := by
    rcases le_or_gt 0 value with forward | backward
    · rw [abs_of_nonneg forward] at size
      rw [size] at apart ⊢
      exact number.magnitude_apart other apart
    · have room : 0 ≤ (4 * number.significand - 2 * number.halfGap) * number.quarter :=
        mul_nonneg (by linarith) quarterPos.le
      exact .inl (backward.le.trans room)
  unfold Rounding.Admits at admits
  rw [number.rounding_low positive, number.rounding_high] at admits
  rw [number.magnitude_eq]
  have below : (4 * number.significand - number.halfGap) * number.quarter <
      4 * number.significand * number.quarter :=
    mul_lt_mul_of_pos_right (by linarith) quarterPos
  have above : 4 * number.significand * number.quarter <
      (4 * number.significand + 2) * number.quarter :=
    mul_lt_mul_of_pos_right (by linarith) quarterPos
  have outside : value ≤ 2 * ((4 * number.significand - number.halfGap) * number.quarter) -
        4 * number.significand * number.quarter ∨
      2 * ((4 * number.significand + 2) * number.quarter) -
        4 * number.significand * number.quarter ≤ value := by
    rcases apartFrom with less | more
    · exact .inl (less.trans_eq (by ring))
    · exact .inr (more.trans_eq' (by ring))
  split at admits
  next closed =>
    have even : number.significand % 2 = 0 := of_decide_eq_true closed
    rcases (abs_sub_le_of_within below.le above.le outside admits).lt_or_eq with nearer | tie
    · exact .inl nearer
    · exact .inr ⟨tie, even⟩
  next => exact .inl (abs_sub_lt_of_within below above outside admits)

theorem is_nearest_of_admits (number : Binary64) (finite : number.isFinite = true)
    (positive : 0 < number.significand) (decimal : ℚ) (admits : number.rounding.Admits decimal) :
    number.IsNearest (if number.isNegative then -decimal else decimal) := by
  intro other otherFinite
  have size := other.abs_value otherFinite
  rw [number.value_eq finite]
  cases number.isNegative with
  | false =>
      intro apart
      exact number.nearer_of_admits other positive decimal _ admits size apart
  | true =>
      intro apart
      have mirrored : -other.value ≠ number.magnitude := by
        intro same
        exact apart (neg_eq_iff_eq_neg.mp same)
      have nearer := number.nearer_of_admits other positive decimal (-other.value) admits
        (by rwa [abs_neg]) mirrored
      -- Distances are kept when both sides change their sign.
      have distance : ∀ value : ℚ, |-decimal - value| = |decimal - -value| := by
        intro value
        rw [← abs_neg]
        congr 1
        ring
      simp only [if_true, distance, neg_neg]
      exact nearer

namespace Rounding

theorem on_grid_holds (interval : Rounding) (exponent : Int) (digits : Nat)
    (found : interval.onGrid? exponent = some digits) : interval.holds digits exponent = true := by
  dsimp only [onGrid?] at found
  split at found
  next below above =>
    split at found
    next =>
      cases found
      exact below
    next =>
      cases found
      exact above
  next below _ =>
    cases found
    exact below
  next _ above =>
    cases found
    exact above
  next => cases found

theorem search_holds (interval : Rounding) (count : Nat) (exponent : Int) (digits : Nat)
    (place : Int) (found : interval.search count exponent = some (digits, place)) :
    interval.holds digits place = true := by
  induction count generalizing exponent with
  | zero => cases found
  | succ count induction =>
      unfold search at found
      split at found
      next point hit =>
        cases found
        exact interval.on_grid_holds _ digits hit
      next => exact induction (exponent - 1) found

theorem search_ne_none (interval : Rounding) (count : Nat) (exponent : Int) (skipped : Nat)
    (inside : skipped < count) (hit : interval.onGrid? (exponent - skipped) ≠ none) :
    interval.search count exponent ≠ none := by
  induction count generalizing exponent skipped with
  | zero => omega
  | succ count induction =>
      unfold search
      split
      next => exact Option.some_ne_none _
      next missed =>
        cases skipped with
        | zero => simp [missed] at hit
        | succ skipped =>
            have same : exponent - (skipped + 1 : Nat) = exponent - 1 - skipped := by omega
            rw [same] at hit
            exact induction (exponent - 1) skipped (by omega) hit

theorem on_grid_ne_none (interval : Rounding) (positive : 0 < interval.denominator) (places : Nat)
    (fine : interval.denominator ≤ (interval.middle - interval.low) * tenTo places)
    (above : interval.middle < interval.high) : interval.onGrid? (-places) ≠ none := by
  have single : tenTo (-(places : Int)).toNat = 1 := by simp [tenTo]
  have scale : tenTo (-(-(places : Int))).toNat = tenTo places := by simp
  have whole := Nat.div_mul_le_self (interval.middle * tenTo places) interval.denominator
  have next := Nat.lt_div_mul_add (a := interval.middle * tenTo places) positive
  have width : interval.low * tenTo places + interval.denominator ≤
      interval.middle * tenTo places := by
    rw [Nat.sub_mul] at fine
    omega
  have upper : interval.middle * tenTo places < interval.high * tenTo places :=
    Nat.mul_lt_mul_of_pos_right above (Nat.pow_pos (by decide))
  have below : interval.holds (interval.middle * tenTo places / interval.denominator) (-places) =
      true := by
    unfold holds
    simp only [single, scale, Nat.mul_one]
    split
    next =>
      simp only [Bool.and_eq_true, decide_eq_true_eq]
      omega
    next =>
      simp only [Bool.and_eq_true, decide_eq_true_eq]
      omega
  dsimp only [onGrid?]
  simp only [single, scale, Nat.mul_one, below]
  split
  next => split <;> exact Option.some_ne_none _
  next => exact Option.some_ne_none _
  next equal _ => cases equal
  next equal _ => cases equal

end Rounding

theorem rounding_on_grid_finest (number : Binary64) (positive : 0 < number.significand) :
    number.rounding.onGrid? (-(342 : Nat)) ≠ none := by
  have gapPos := number.half_gap_pos
  have gapLe := number.half_gap_le
  let scale := twoTo (number.unitExponent - 2).toNat
  have scalePos : 0 < scale := Nat.pow_pos (by decide)
  have low : number.rounding.low = (4 * number.significand - number.halfGap) * scale := rfl
  have middle : number.rounding.middle = 4 * number.significand * scale := rfl
  have high : number.rounding.high = (4 * number.significand + 2) * scale := rfl
  apply Rounding.on_grid_ne_none _ number.rounding_denominator_pos
  -- The least unit is 2 ^ -1074, so the denominator is never beyond the power of its quarters.
  · have least : (-(number.unitExponent - 2)).toNat ≤ 1076 := by
      unfold unitExponent
      omega
    have half : number.rounding.middle - number.rounding.low = number.halfGap * scale := by
      rw [low, middle, ← Nat.sub_mul]
      congr 1
      omega
    calc number.rounding.denominator
        ≤ twoTo 1076 := two_to_le least
      _ ≤ tenTo 342 := by decide +kernel
      _ ≤ number.halfGap * scale * tenTo 342 :=
        Nat.le_mul_of_pos_left _ (Nat.mul_pos gapPos scalePos)
      _ = _ := by rw [half]
  · rw [middle, high]
    exact Nat.mul_lt_mul_of_pos_right (by omega) scalePos

theorem shortest_holds (number : Binary64) (positive : 0 < number.significand) :
    number.rounding.holds number.shortest.1 number.shortest.2 = true := by
  have found : number.rounding.search 652 309 ≠ none :=
    number.rounding.search_ne_none 652 309 651 (by omega) (number.rounding_on_grid_finest positive)
  obtain ⟨⟨digits, place⟩, shortest⟩ := Option.ne_none_iff_exists'.mp found
  rw [Binary64.shortest, shortest]
  exact number.rounding.search_holds 652 309 digits place shortest

theorem shortest_admitted (number : Binary64) (positive : 0 < number.significand) :
    number.rounding.Admits (number.shortest.1 * 10 ^ number.shortest.2) :=
  (Rounding.holds_iff _ number.rounding_denominator_pos _ _).mp (number.shortest_holds positive)

theorem pos_of_admits (number : Binary64) (positive : 0 < number.significand) (decimal : ℚ)
    (admits : number.rounding.Admits decimal) : 0 < decimal := by
  have one : (1 : ℚ) ≤ number.significand := by exact_mod_cast positive
  have gapLe : (number.halfGap : ℚ) ≤ 2 := by exact_mod_cast number.half_gap_le
  have lowPos : 0 < (4 * number.significand - number.halfGap) * number.quarter :=
    mul_pos (by linarith) number.quarter_pos
  unfold Rounding.Admits at admits
  rw [number.rounding_low positive] at admits
  split at admits
  next => exact lowPos.trans_le admits.1
  next => exact lowPos.trans admits.1

theorem shortest_pos (number : Binary64) (positive : 0 < number.significand) :
    0 < number.shortest.1 := by
  have decimal := number.pos_of_admits positive _ (number.shortest_admitted positive)
  by_contra zero
  have none : number.shortest.1 = 0 := by omega
  simp [none] at decimal

theorem is_nearest_of_zero (number : Binary64) (finite : number.isFinite = true)
    (zero : number.significand = 0) : number.IsNearest 0 := by
  have value : number.value = 0 := by
    rw [number.value_eq finite, magnitude, zero]
    simp
  intro other _ apart
  left
  rw [value, sub_zero, abs_zero, zero_sub, abs_neg]
  exact abs_pos.mpr (value ▸ apart)

end Binary64

end GroqQuery
