import GroqQuery.Text.Capitals
import Mathlib.Data.List.Basic

/-!
Letter case outside ASCII. A full case mapping gives most letters capitals outside ASCII. Those do
not matter for names inside it: a text has such a name as its capitals under the full mapping
exactly when it has under the mapping that knows the capitals in ASCII alone.
-/

namespace GroqQuery.Text

def IsAscii (chars : List Char) : Prop := ∀ char ∈ chars, char.toNat < 128

/-- A case mapping with the capitals that are listed here: a character whose capitals lie in ASCII
has those, and any other character is left outside of it. -/
structure IsUpperCasing (upper : Char → List Char) : Prop where
  inside : ∀ char, IsAscii (upper char) → capital char = upper char
  outside : ∀ char, ¬IsAscii (upper char) → ¬IsAscii (capital char)

theorem capital_is_upper_casing : IsUpperCasing capital := ⟨fun _ _ => rfl, fun _ other => other⟩

namespace IsUpperCasing

variable {upper : Char → List Char}

theorem is_ascii_iff (upperCasing : IsUpperCasing upper) (char : Char) :
    IsAscii (upper char) ↔ IsAscii (capital char) := by
  constructor
  · intro ascii
    rw [upperCasing.inside char ascii]
    exact ascii
  · intro ascii
    by_contra beyond
    exact upperCasing.outside char beyond ascii

theorem is_ascii_flat_map (mapping : Char → List Char) (chars : List Char) :
    IsAscii (chars.flatMap mapping) ↔ ∀ char ∈ chars, IsAscii (mapping char) := by
  simp only [IsAscii, List.mem_flatMap]
  constructor
  · intro ascii char member letter belongs
    exact ascii letter ⟨char, member, belongs⟩
  · intro each letter found
    obtain ⟨char, member, belongs⟩ := found
    exact each char member letter belongs

theorem capitals_eq_iff (upperCasing : IsUpperCasing upper) (text name : String)
    (ascii : IsAscii name.toList) :
    String.ofList (text.toList.flatMap upper) = name ↔ capitals text = name := by
  by_cases inside : ∀ char ∈ text.toList, IsAscii (upper char)
  · have same : text.toList.flatMap capital = text.toList.flatMap upper :=
      List.flatMap_congr fun char member => upperCasing.inside char (inside char member)
    rw [capitals, same]
  · -- Some letter has a capital outside ASCII, under either mapping, and the name has none.
    have differs : ∀ mapping : Char → List Char,
        (¬∀ char ∈ text.toList, IsAscii (mapping char)) →
        String.ofList (text.toList.flatMap mapping) ≠ name := by
      intro mapping beyond same
      rw [← same, String.toList_ofList, is_ascii_flat_map] at ascii
      exact beyond ascii
    have other : ¬∀ char ∈ text.toList, IsAscii (capital char) := by
      intro each
      exact inside fun char member => (upperCasing.is_ascii_iff char).mpr (each char member)
    exact ⟨fun same => absurd same (differs upper inside),
      fun same => absurd same (differs capital other)⟩

end IsUpperCasing

end GroqQuery.Text
