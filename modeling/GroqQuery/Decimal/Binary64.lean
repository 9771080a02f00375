/-!
Binary floating-point numbers of the 64-bit interchange format. A number is held as its bits, and
everything asked of it is answered in exact integer arithmetic: a finite number is its significand
times a power of two.
-/

namespace GroqQuery

def twoTo (exponent : Nat) : Nat := Nat.pow 2 exponent

def tenTo (exponent : Nat) : Nat := Nat.pow 10 exponent

structure Binary64 where
  bits : UInt64
  deriving DecidableEq, Repr

namespace Binary64

def isNegative (number : Binary64) : Bool :=
  number.bits.toNat / twoTo 63 == 1

def biasedExponent (number : Binary64) : Nat :=
  number.bits.toNat / twoTo 52 % twoTo 11

def fraction (number : Binary64) : Nat :=
  number.bits.toNat % twoTo 52

def isFinite (number : Binary64) : Bool :=
  number.biasedExponent != 2047

def isNaN (number : Binary64) : Bool :=
  !number.isFinite && number.fraction != 0

/-- The leading bit is implied for every exponent but the least. -/
def significand (number : Binary64) : Nat :=
  if number.biasedExponent = 0 then number.fraction else number.fraction + twoTo 52

def unitExponent (number : Binary64) : Int :=
  (max number.biasedExponent 1 : Nat) - 1075

def isZero (number : Binary64) : Bool :=
  number.isFinite && number.significand == 0

/-- The exact value of a finite number as a numerator and a positive denominator. -/
def ratio? (number : Binary64) : Option (Int × Nat) :=
  if number.isFinite then
    let magnitude := number.significand * twoTo number.unitExponent.toNat
    let denominator := twoTo (-number.unitExponent).toNat
    some (if number.isNegative then -(magnitude : Int) else magnitude, denominator)
  else none

/-- The whole part of a finite number, rounded toward zero. -/
def wholePart? (number : Binary64) : Option Int :=
  number.ratio?.map fun value => value.1.tdiv value.2

def whole? (number : Binary64) : Option Int :=
  number.ratio?.bind fun value =>
    if value.1 % value.2 = 0 then some (value.1 / value.2) else none

end Binary64

end GroqQuery
