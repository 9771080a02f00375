/-!
Numerals of whole numbers. A number is written out in full or not at all: beyond a fixed number of
digits it has no numeral, and what would have to show it cannot be shown.
-/

namespace GroqQuery

def digitLimit : Nat := 4300

def numeral? (number : Int) : Option String :=
  if (Nat.toDigits 10 number.natAbs).length ≤ digitLimit then some (toString number) else none

/-- What is said where a number without a numeral had to be written. -/
def overlongMessage : String :=
  "Exceeds the limit (" ++ toString digitLimit ++ " digits) for integer string conversion; " ++
    "use sys.set_int_max_str_digits() to increase the limit"

end GroqQuery
