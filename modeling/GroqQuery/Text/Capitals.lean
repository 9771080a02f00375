/-!
Letter case for names written in ASCII. A name is compared by its capitals, and some letters
outside ASCII have capitals inside it; those are all listed, so that comparing with an ASCII name
gives the answer of the full case mapping.
-/

namespace GroqQuery.Text

/-- The capital form of a character, where it consists of ASCII letters; any other character is
left as it stands. -/
def capital (char : Char) : List Char :=
  if char.isLower then [char.toUpper]
  else match char.toNat with
    | 0xDF => ['S', 'S']
    | 0x131 => ['I']
    | 0x17F => ['S']
    | 0xFB00 => ['F', 'F']
    | 0xFB01 => ['F', 'I']
    | 0xFB02 => ['F', 'L']
    | 0xFB03 => ['F', 'F', 'I']
    | 0xFB04 => ['F', 'F', 'L']
    | 0xFB05 => ['S', 'T']
    | 0xFB06 => ['S', 'T']
    | _ => [char]

def capitals (text : String) : String :=
  String.ofList (text.toList.flatMap capital)

/-- Lower case inside ASCII, which is all that a variable name of the settings can hold. -/
def lower (text : String) : String :=
  String.ofList (text.toList.map Char.toLower)

end GroqQuery.Text
