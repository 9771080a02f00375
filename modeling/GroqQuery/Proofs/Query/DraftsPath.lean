import GroqQuery.Proofs.Query.Drafts
import GroqQuery.Proofs.Settings.Loading
import GroqQuery.Proofs.Text.Literals

/-!
The drafts path in its quotes. The exclusion of drafts puts quotes around the path and leaves the
path as it is. So the filter speaks of that path just where the path has no quote and no backslash;
what stands behind a quote in it becomes part of the filter itself.
-/

namespace GroqQuery

open Text

/-- The text is a call of `path` on one literal, which stands for this path. -/
def IsPathCall (unescape : Char → Char) (value path : String) : Prop :=
  ∃ literal : String, value = "path(" ++ literal ++ ")" ∧
    readLiteral unescape literal.toList = some (path.toList, [])

theorem is_path_call_iff (unescape : Char → Char) (literal path : String) :
    IsPathCall unescape ("path(" ++ literal ++ ")") path ↔
      readLiteral unescape literal.toList = some (path.toList, []) := by
  constructor
  · intro call
    obtain ⟨other, same, reads⟩ := call
    rw [String.append_left_inj, String.append_right_inj] at same
    rw [same]
    exact reads
  · intro reads
    exact ⟨literal, rfl, reads⟩

theorem draft_exclusion_eq_in_quotes (path : String) :
    draftExclusion path = .compare "_id" "in" ("path(" ++ inQuotes path ++ ")") true := by
  rw [draftExclusion, Filter.compare.injEq]
  refine ⟨rfl, rfl, ?_, rfl⟩
  rw [← String.toList_inj]
  simp [inQuotes]

namespace Preferences

theorem draft_exclusion_of_path (preferences : Preferences) (given : Value) (path : String)
    (accepted : Settings.refuseDraftsPath path = none)
    (effective : given = .text path ∨
      given.holds = false ∧ preferences.draftsPath = .text path) :
    preferences.draftExclusion? given = some (GroqQuery.draftExclusion path) := by
  rcases effective with direct | ⟨missing, settled⟩
  · have nonempty : path ≠ "" := by
      intro empty
      subst empty
      cases accepted
    have holds : (Value.text path).holds = true := by simp [Value.holds, nonempty]
    rw [direct, draftExclusion?, if_pos holds]
    rfl
  · rw [draftExclusion?, missing, settled]
    rfl

end Preferences

/-- The exclusion of drafts quotes a path rightly just where the path is plain. The value it
compares with is a call on the path in quotes, and whatever escapes stand for, that literal is read
as the path, up to its last quote, exactly if the path has neither a quote nor a backslash. If the
path has a quote, the literal ends there, and what comes behind it stands in the filter as it is. -/
theorem drafts_path_quoted_iff_plain (unescape : Char → Char) (preferences : Preferences)
    (given : Value) (path : String) (accepted : Settings.refuseDraftsPath path = none)
    (effective : given = .text path ∨
      given.holds = false ∧ preferences.draftsPath = .text path) :
    ∃ value clause, preferences.draftExclusion? given = some clause ∧
      clause = .compare "_id" "in" value true ∧ clause.render = "!(_id in " ++ value ++ ")" ∧
      value = "path(" ++ inQuotes path ++ ")" ∧
      (IsPathCall unescape value path ↔ '\'' ∉ path.toList ∧ '\\' ∉ path.toList) ∧
      ∀ front back : String, path = front ++ "'" ++ back → IsPlain front.toList →
        readLiteral unescape (inQuotes path).toList =
          some (front.toList, back.toList ++ ['\'']) := by
  refine ⟨"path(" ++ inQuotes path ++ ")", _,
    preferences.draft_exclusion_of_path given path accepted effective,
    draft_exclusion_eq_in_quotes path, ?_, rfl, ?_, ?_⟩
  · rw [draft_exclusion_render, ← String.toList_inj]
    simp [inQuotes]
  · rw [is_path_call_iff]
    exact read_literal_in_quotes_iff path
  · intro front back same plain
    subst same
    exact read_literal_in_quotes_of_quote front back plain

/-- A path from the settings that is read as it is, and a given one that ends at its apostrophe. -/
theorem drafts_path_quoted_iff_plain_or_cut :
    let preferences : Preferences :=
      ⟨.text "INFO", .text "*", .bool false, .text "archive.**"⟩
    IsPathCall id "path('archive.**')" "archive.**" ∧
      readLiteral id (inQuotes "it's.**").toList = some ("it".toList, "s.**'".toList) ∧
      Filter.render <$> preferences.draftExclusion? (.text "it's.**") =
        some "!(_id in path('it's.**'))" := by
  intro preferences
  constructor
  · obtain ⟨value, _, _, _, _, same, call, _⟩ :=
      drafts_path_quoted_iff_plain id preferences .null "archive.**" (by decide) (.inr ⟨rfl, rfl⟩)
    rw [same] at call
    exact call.mpr (by decide)
  · obtain ⟨value, clause, found, _, written, same, _, cut⟩ :=
      drafts_path_quoted_iff_plain id preferences (.text "it's.**") "it's.**" (by decide)
        (.inl rfl)
    refine ⟨cut "it" "s.**" (by decide) (by decide), ?_⟩
    rw [found]
    change some clause.render = _
    rw [written, same]
    decide

/-- A path that is let through and closes its literal: drafts under the path of which it seems to
speak are let in again, for the filter asks for a second condition before it leaves them out. -/
theorem drafts_path_quoted_iff_plain_not_always :
    let path := "drafts.**') && _id in path('x"
    let preferences : Preferences := ⟨.text "INFO", .text "*", .bool false, .text path⟩
    Settings.refuseDraftsPath path = none ∧
      Filter.render <$> preferences.draftExclusion? .null =
        some "!(_id in path('drafts.**') && _id in path('x'))" ∧
      ¬∃ (unescape : Char → Char) (value : String),
        preferences.draftExclusion? .null = some (.compare "_id" "in" value true) ∧
          IsPathCall unescape value path := by
  intro path preferences
  refine ⟨by decide, by decide, ?_⟩
  intro quoted
  obtain ⟨unescape, value, clause, call⟩ := quoted
  have written : preferences.draftExclusion? .null = some (GroqQuery.draftExclusion path) := rfl
  rw [written, draft_exclusion_eq_in_quotes, Option.some.injEq, Filter.compare.injEq] at clause
  rw [← clause.2.2.1, is_path_call_iff, read_literal_in_quotes_iff] at call
  exact call.1 (by decide)

end GroqQuery
