import GroqQuery.Decimal.Binary64

/-!
The shortest decimal that reads back as a given binary number. Decimals with their last digit at a
given power of ten form a grid; the coarsest grid with a point that rounds to the number gives the
fewest digits, and of two such points the one nearer to the number is taken.
-/

namespace GroqQuery.Binary64

/-- The reals that round to a positive finite number, over one common denominator. Both ends belong
to them exactly when the significand is even. -/
structure Rounding where
  low : Nat
  middle : Nat
  high : Nat
  denominator : Nat
  closed : Bool

/-- Just above a power of two the gap below is half the gap above, unless the exponent is already
the least one. Quarters of the significand's unit make all three bounds whole. -/
def rounding (number : Binary64) : Rounding :=
  let significand := number.significand
  let quarter := number.unitExponent - 2
  let scale := twoTo quarter.toNat
  let below := if number.fraction = 0 ∧ 1 < number.biasedExponent then 1 else 2
  { low := (4 * significand - below) * scale
    middle := 4 * significand * scale
    high := (4 * significand + 2) * scale
    denominator := twoTo (-quarter).toNat
    closed := significand % 2 = 0 }

/-- Whether the decimal `digits · 10 ^ exponent` lies in the interval. -/
def Rounding.holds (interval : Rounding) (digits : Nat) (exponent : Int) : Bool :=
  let point := digits * tenTo exponent.toNat * interval.denominator
  let low := interval.low * tenTo (-exponent).toNat
  let high := interval.high * tenTo (-exponent).toNat
  if interval.closed then low ≤ point && point ≤ high else low < point && point < high

/-- The point of one grid that reads back, if there is any: only the two neighbours of the number
need a look. At an equal distance the even one is taken. -/
def Rounding.onGrid? (interval : Rounding) (exponent : Int) : Option Nat :=
  let unit := interval.denominator * tenTo exponent.toNat
  let value := interval.middle * tenTo (-exponent).toNat
  let below := value / unit
  let rest := value % unit
  match interval.holds below exponent, interval.holds (below + 1) exponent with
  | true, true =>
      if 2 * rest < unit ∨ (2 * rest = unit ∧ below % 2 = 0) then some below
      else some (below + 1)
  | true, false => some below
  | false, true => some (below + 1)
  | false, false => none

def Rounding.search (interval : Rounding) : Nat → Int → Option (Nat × Int)
  | 0, _ => none
  | count + 1, exponent =>
      match interval.onGrid? exponent with
      | some digits => some (digits, exponent)
      | none => interval.search count (exponent - 1)

/-- Digits and exponent of the shortest decimal of a positive finite number. No such number reaches
`10 ^ 309`, and on the grid of `10 ^ -342` the least of them has seventeen digits and more. -/
def shortest (number : Binary64) : Nat × Int :=
  (number.rounding.search 652 309).getD (0, 0)

end GroqQuery.Binary64
