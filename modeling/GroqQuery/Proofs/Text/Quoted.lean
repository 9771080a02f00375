import GroqQuery.Failure
import GroqQuery.Text.Quoted

/-!
Texts that are quoted as they are. What has no quote and no backslash in it and is printable
throughout only gets its two quotes; the messages of rejections are of this kind.
-/

namespace GroqQuery

namespace Text

/-- Whether a character stands for itself in single quotes. -/
def isVerbatim (char : Char) : Bool :=
  char ≠ '\'' ∧ char ≠ '\\' ∧ char ≠ '\n' ∧ char ≠ '\r' ∧ char ≠ '\t' ∧ isPrintable char

theorem escape_of_is_verbatim (char : Char) (verbatim : isVerbatim char = true) :
    escape '\'' char = [char] := by
  obtain ⟨quote, backslash, newline, returns, tab, printable⟩ := of_decide_eq_true verbatim
  simp [escape, quote, backslash, newline, returns, tab, printable]

theorem flat_map_escape_of_is_verbatim (chars : List Char)
    (verbatim : ∀ char ∈ chars, isVerbatim char = true) : chars.flatMap (escape '\'') = chars := by
  induction chars with
  | nil => rfl
  | cons char chars induction =>
      obtain ⟨first, others⟩ := List.forall_mem_cons.mp verbatim
      rw [List.flatMap_cons, escape_of_is_verbatim char first, induction others]
      rfl

theorem quoted_of_is_verbatim (text : String)
    (verbatim : text.toList.all isVerbatim = true) : quoted text = "'" ++ text ++ "'" := by
  rw [List.all_eq_true] at verbatim
  have unquoted : '\'' ∉ text.toList := by
    intro member
    exact absurd (verbatim '\'' member) (by decide)
  have mark : quoteMark text.toList = '\'' := by simp [quoteMark, unquoted]
  rw [quoted, mark, flat_map_escape_of_is_verbatim _ verbatim, ← String.toList_inj]
  simp

end Text

theorem Part.quoted_message (part : Part) :
    Text.quoted part.message = "'" ++ part.message ++ "'" := by
  apply Text.quoted_of_is_verbatim
  cases part <;> decide

end GroqQuery
