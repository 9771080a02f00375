import Mathlib.Data.List.Basic

/-!
Text literals in single quotes. A literal is read up to the first quote without a backslash before
it, and each backslash makes an escape of the character behind it. What a text in quotes is read as
is the text itself just where it has neither a quote nor a backslash; otherwise the literal ends
early, stays open or stands for something else.
-/

namespace GroqQuery.Text

section

-- What a character behind a backslash stands for.
variable (unescape : Char → Char)

/-- The content of a literal that has been opened, and what stands behind its end. -/
def readContent : List Char → Option (List Char × List Char)
  | [] => none
  | '\'' :: behind => some ([], behind)
  | '\\' :: [] => none
  | '\\' :: char :: rest => do
      let (content, behind) ← readContent rest
      some (unescape char :: content, behind)
  | char :: rest => do
      let (content, behind) ← readContent rest
      some (char :: content, behind)

def readLiteral : List Char → Option (List Char × List Char)
  | '\'' :: rest => readContent unescape rest
  | _ => none

end

/-- A text that can stand in quotes as it is. -/
def IsPlain (chars : List Char) : Prop := '\'' ∉ chars ∧ '\\' ∉ chars

instance (chars : List Char) : Decidable (IsPlain chars) :=
  inferInstanceAs (Decidable (_ ∧ _))

def inQuotes (text : String) : String := "'" ++ text ++ "'"

section

variable {unescape : Char → Char}

theorem is_plain_cons (char : Char) (chars : List Char) :
    IsPlain (char :: chars) ↔ char ≠ '\'' ∧ char ≠ '\\' ∧ IsPlain chars := by
  simp only [IsPlain, List.mem_cons, not_or]
  constructor
  · intro plain
    obtain ⟨⟨quote, quotes⟩, backslash, backslashes⟩ := plain
    exact ⟨fun same => quote same.symm, fun same => backslash same.symm, quotes, backslashes⟩
  · intro plain
    obtain ⟨quote, backslash, quotes, backslashes⟩ := plain
    exact ⟨⟨fun same => quote same.symm, quotes⟩, fun same => backslash same.symm, backslashes⟩

theorem read_content_cons (char : Char) (chars : List Char) (quote : char ≠ '\'')
    (backslash : char ≠ '\\') :
    readContent unescape (char :: chars) =
      (readContent unescape chars).map fun read => (char :: read.1, read.2) := by
  rw [readContent]
  · cases readContent unescape chars <;> rfl
  all_goals simp [quote, backslash]

theorem read_content_escape (char : Char) (chars : List Char) :
    readContent unescape ('\\' :: char :: chars) =
      (readContent unescape chars).map fun read => (unescape char :: read.1, read.2) := by
  rw [readContent]
  cases readContent unescape chars <;> rfl

theorem read_content_plain (chars behind : List Char) (plain : IsPlain chars) :
    readContent unescape (chars ++ '\'' :: behind) = some (chars, behind) := by
  induction chars with
  | nil => rfl
  | cons char chars induction =>
      obtain ⟨quote, backslash, rest⟩ := (is_plain_cons char chars).mp plain
      rw [List.cons_append, read_content_cons char _ quote backslash, induction rest]
      rfl

theorem length_read_content (chars content behind : List Char)
    (reads : readContent unescape chars = some (content, behind)) :
    content.length + behind.length < chars.length := by
  induction chars using readContent.induct generalizing content behind with
  | case1 => cases reads
  | case2 rest =>
      cases reads
      simp
  | case3 => cases reads
  | case4 char rest induction =>
      rw [read_content_escape, Option.map_eq_some_iff] at reads
      obtain ⟨⟨inner, after⟩, readsRest, same⟩ := reads
      cases same
      have shorter := induction inner after readsRest
      simp only [List.length_cons]
      omega
  | case5 char rest quote lone escape induction =>
      have backslash : char ≠ '\\' := by
        intro same
        cases rest with
        | nil => exact lone same rfl
        | cons next rest => exact escape next rest same rfl
      rw [read_content_cons char rest quote backslash, Option.map_eq_some_iff] at reads
      obtain ⟨⟨inner, after⟩, readsRest, same⟩ := reads
      cases same
      have shorter := induction inner after readsRest
      simp only [List.length_cons]
      omega

/-- Only a plain text is read as itself: a quote ends it early, and an escape is longer than what it
stands for. -/
theorem is_plain_of_read_content (chars : List Char)
    (reads : readContent unescape (chars ++ ['\'']) = some (chars, [])) : IsPlain chars := by
  induction chars with
  | nil => exact ⟨List.not_mem_nil, List.not_mem_nil⟩
  | cons char chars induction =>
      rw [List.cons_append] at reads
      have quote : char ≠ '\'' := by
        intro same
        subst same
        cases reads
      have backslash : char ≠ '\\' := by
        intro same
        subst same
        cases chars with
        | nil => cases reads
        | cons next rest =>
            rw [List.cons_append, read_content_escape, Option.map_eq_some_iff] at reads
            obtain ⟨⟨inner, after⟩, readsRest, same⟩ := reads
            have shorter := length_read_content _ inner after readsRest
            have whole : inner.length = rest.length + 1 := by
              simpa using congrArg (fun read => read.1.length) same
            simp only [List.length_append, List.length_singleton] at shorter
            omega
      rw [read_content_cons char _ quote backslash, Option.map_eq_some_iff] at reads
      obtain ⟨⟨inner, after⟩, readsRest, same⟩ := reads
      cases same
      exact (is_plain_cons char _).mpr ⟨quote, backslash, induction readsRest⟩

theorem read_literal_in_quotes_iff (text : String) :
    readLiteral unescape (inQuotes text).toList = some (text.toList, []) ↔
      IsPlain text.toList := by
  have opened : readLiteral unescape (inQuotes text).toList =
      readContent unescape (text.toList ++ ['\'']) := by
    rw [inQuotes, String.toList_append, String.toList_append]
    rfl
  rw [opened]
  exact ⟨is_plain_of_read_content text.toList, read_content_plain text.toList []⟩

theorem read_literal_in_quotes_of_quote (front back : String) (plain : IsPlain front.toList) :
    readLiteral unescape (inQuotes (front ++ "'" ++ back)).toList =
      some (front.toList, back.toList ++ ['\'']) := by
  have opened : readLiteral unescape (inQuotes (front ++ "'" ++ back)).toList =
      readContent unescape (front.toList ++ '\'' :: (back.toList ++ ['\''])) := by
    simp [inQuotes, readLiteral]
  rw [opened]
  exact read_content_plain front.toList _ plain

end

end GroqQuery.Text
