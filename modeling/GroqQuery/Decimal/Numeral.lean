import GroqQuery.Decimal.Shortest

/-!
How a binary number is written: positionally while its leading digit stands between the fourth
place after the point and the sixteenth before it, otherwise with an exponent. A positional
numeral always shows a point.
-/

namespace GroqQuery.Binary64

def leastPositional : Int := -4

def leastLarge : Int := 16

def dropTrailingZeros (digits : List Char) : List Char :=
  (digits.reverse.dropWhile (· == '0')).reverse

/-- `point` is the number of digits before the point; zeros fill the places that have none. -/
def positional (digits : List Char) (point : Int) : List Char :=
  if point ≤ 0 then '0' :: '.' :: (List.replicate (-point).toNat '0' ++ digits)
  else
    let width := point.toNat
    let whole := digits.take width ++ List.replicate (width - digits.length) '0'
    let rest := digits.drop width
    whole ++ '.' :: (if rest.isEmpty then ['0'] else rest)

/-- The exponent carries its sign always and at least two digits. -/
def exponential (digits : List Char) (exponent : Int) : List Char :=
  let mantissa := match digits with
    | [] => []
    | [lead] => [lead]
    | lead :: rest => lead :: '.' :: rest
  let size := Nat.toDigits 10 exponent.natAbs
  mantissa ++ 'e' :: (if exponent < 0 then '-' else '+') ::
    (List.replicate (2 - size.length) '0' ++ size)

def magnitudeText (number : Binary64) : List Char :=
  if number.isZero then ['0', '.', '0']
  else
    let (digits, exponent) := number.shortest
    let written := Nat.toDigits 10 digits
    let point := (written.length : Int) + exponent
    let kept := dropTrailingZeros written
    if leastPositional < point ∧ point ≤ leastLarge then positional kept point
    else exponential kept (point - 1)

def text (number : Binary64) : String :=
  if number.isNaN then "nan"
  else
    let sign := if number.isNegative then ['-'] else []
    let magnitude := if number.isFinite then number.magnitudeText else ['i', 'n', 'f']
    String.ofList (sign ++ magnitude)

end GroqQuery.Binary64
