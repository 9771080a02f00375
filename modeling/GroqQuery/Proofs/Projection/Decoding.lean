import GroqQuery.Proofs.Induction
import GroqQuery.Proofs.Projection.Outline

/-!
What the text of a projection says. The outline of an item is all that its text keeps of it: a key
with a plain value is one head, a key with an item as its value goes in front of the head of that
item, and further items stand in braces. As long as no text in the items holds a comma or a brace,
the outlines can be recovered from the text of the projection, so items are never lost, merged,
reordered or moved to another level.
-/

namespace GroqQuery

def Outline.prepend (front : String) : Outline → Outline
  | .plain head => .plain (front ++ head)
  | .braced head items => .braced (front ++ head) items

namespace Projection

open Outline

mutual

def outline : Projection → Outline
  | .field name => .plain name
  | .entry key value => .plain (key ++ ":" ++ value)
  | .entryOf key value => value.outline.prepend (key ++ ":")
  | .reference key value follow => .plain (key ++ (if follow then "->" else ":") ++ value)
  | .referenceOf key items follow =>
      .braced (key ++ (if follow then "->" else ":")) (outlineEach items)
  | .object name items joiner => .braced (name ++ joiner) (outlineEach items)
termination_by structural item => item

def outlineEach : List Projection → List Outline
  | [] => []
  | item :: rest => item.outline :: outlineEach rest
termination_by structural items => items

end

mutual

/-- No text holds a comma or a brace, and no field is without a name. -/
def isUnmarked : Projection → Bool
  | .field name => name ≠ "" && isHead name
  | .entry key value => isHead key && isHead value
  | .entryOf key value => isHead key && value.isUnmarked
  | .reference key value _ => isHead key && isHead value
  | .referenceOf key items _ => isHead key && areUnmarked items
  | .object name items joiner => isHead name && isHead joiner && areUnmarked items
termination_by structural item => item

def areUnmarked : List Projection → Bool
  | [] => true
  | item :: rest => item.isUnmarked && areUnmarked rest
termination_by structural items => items

end

@[simp] theorem outline_each_eq_map (items : List Projection) :
    outlineEach items = items.map outline := by
  induction items with
  | nil => rfl
  | cons item rest induction => simp [outlineEach, induction]

theorem are_unmarked_iff (items : List Projection) :
    areUnmarked items = true ↔ ∀ item ∈ items, item.isUnmarked = true := by
  induction items with
  | nil => simp [areUnmarked]
  | cons item rest induction => simp [areUnmarked, induction]

theorem render_prepend (front : String) (outline : Outline) :
    (outline.prepend front).render = front ++ outline.render := by
  cases outline with
  | plain head => rfl
  | braced head items => simp [prepend, Outline.render, String.append_assoc]

theorem render_outlines (items : List Projection)
    (each : ∀ item ∈ items, item.outline.render = item.render) :
    (items.map outline).map Outline.render = items.map render := by
  rw [List.map_map]
  exact List.map_congr_left each

theorem render_outline (item : Projection) : item.outline.render = item.render := by
  induction item using tree_induction with
  | field name => rfl
  | entry key value => rfl
  | entryOf key value induction =>
      rw [outline, render_prepend, induction]
      rfl
  | reference key value follow => cases follow <;> rfl
  | referenceOf key items follow each =>
      have texts := render_outlines items each
      cases follow <;>
        simp [outline, render, Outline.render, ← texts, referenceJoiner, followJoiner, entryJoiner,
          separator]
  | object name items joiner each =>
      have texts := render_outlines items each
      simp [outline, render, Outline.render, ← texts, separator]

theorem render_all_outlines (items : List Projection) :
    Outline.renderAll (items.map outline) = renderAll items := by
  rw [Outline.renderAll, render_outlines items fun item _ => render_outline item]
  rfl

theorem is_head_append (left right : String) :
    isHead (left ++ right) = true ↔ isHead left = true ∧ isHead right = true := by
  simp [isHead]

theorem is_clear_prepend (front : String) (outline : Outline) (clean : isHead front = true)
    (clear : outline.isClear = true) : (outline.prepend front).isClear = true := by
  cases outline with
  | plain head =>
      simp only [isClear, Bool.and_eq_true, decide_eq_true_eq] at clear
      simp only [prepend, isClear, Bool.and_eq_true, decide_eq_true_eq, is_head_append]
      refine ⟨?_, clean, clear.2⟩
      intro empty
      exact clear.1 (String.append_eq_empty_iff.mp empty).2
  | braced head items =>
      simp only [isClear, Bool.and_eq_true] at clear
      simp only [prepend, isClear, Bool.and_eq_true, is_head_append]
      exact ⟨⟨clean, clear.1⟩, clear.2⟩

theorem is_clear_pair (key joiner value : String) (keyClean : isHead key = true)
    (joinerClean : isHead joiner = true) (joinerNonempty : joiner ≠ "")
    (valueClean : isHead value = true) :
    (Outline.plain (key ++ joiner ++ value)).isClear = true := by
  simp only [isClear, Bool.and_eq_true, decide_eq_true_eq, is_head_append]
  refine ⟨?_, ⟨keyClean, joinerClean⟩, valueClean⟩
  intro empty
  exact joinerNonempty (String.append_eq_empty_iff.mp (String.append_eq_empty_iff.mp empty).1).2

theorem are_clear_outlines (items : List Projection)
    (each : ∀ item ∈ items, item.outline.isClear = true) :
    areClear (items.map outline) = true := by
  rw [are_clear_iff]
  intro clear member
  obtain ⟨item, belongs, rfl⟩ := List.mem_map.mp member
  exact each item belongs

theorem outline_is_clear (item : Projection) (unmarked : item.isUnmarked = true) :
    item.outline.isClear = true := by
  induction item using tree_induction with
  | field name => exact unmarked
  | entry key value =>
      simp only [isUnmarked, Bool.and_eq_true] at unmarked
      exact is_clear_pair key ":" value unmarked.1 (by decide) (by decide) unmarked.2
  | entryOf key value induction =>
      simp only [isUnmarked, Bool.and_eq_true] at unmarked
      apply is_clear_prepend
      · exact (is_head_append key ":").mpr ⟨unmarked.1, by decide⟩
      · exact induction unmarked.2
  | reference key value follow =>
      simp only [isUnmarked, Bool.and_eq_true] at unmarked
      cases follow with
      | false => exact is_clear_pair key ":" value unmarked.1 (by decide) (by decide) unmarked.2
      | true => exact is_clear_pair key "->" value unmarked.1 (by decide) (by decide) unmarked.2
  | referenceOf key items follow each =>
      simp only [isUnmarked, Bool.and_eq_true, are_unmarked_iff] at unmarked
      have clear := are_clear_outlines items fun item member =>
        each item member (unmarked.2 item member)
      simp only [outline, outline_each_eq_map, isClear, Bool.and_eq_true, is_head_append]
      refine ⟨⟨unmarked.1, ?_⟩, clear⟩
      cases follow <;> decide
  | object name items joiner each =>
      simp only [isUnmarked, Bool.and_eq_true, are_unmarked_iff] at unmarked
      have clear := are_clear_outlines items fun item member =>
        each item member (unmarked.2 item member)
      simp only [outline, outline_each_eq_map, isClear, Bool.and_eq_true, is_head_append]
      exact ⟨unmarked.1, clear⟩

theorem parse_render_all (items : List Projection)
    (unmarked : ∀ item ∈ items, item.isUnmarked = true) :
    Outline.parse (renderAll items) = some (items.map outline) := by
  rw [← render_all_outlines]
  apply Outline.parse_render_all
  intro clear member
  obtain ⟨item, belongs, rfl⟩ := List.mem_map.mp member
  exact outline_is_clear item (unmarked item belongs)

/-- The text of a projection can be decoded, and it says exactly what the outlines of its items
say. -/
theorem projection_text_decodes :
    (∀ items : List Projection, (∀ item ∈ items, item.isUnmarked = true) →
      Outline.parse (renderAll items) = some (items.map outline)) ∧
    ∀ left right : List Projection, (∀ item ∈ left, item.isUnmarked = true) →
      (∀ item ∈ right, item.isUnmarked = true) →
      (renderAll left = renderAll right ↔ left.map outline = right.map outline) := by
  refine ⟨parse_render_all, ?_⟩
  intro left right leftUnmarked rightUnmarked
  constructor
  · intro same
    have leftParsed := parse_render_all left leftUnmarked
    rw [same, parse_render_all right rightUnmarked] at leftParsed
    exact (Option.some.inj leftParsed).symm
  · intro same
    rw [← render_all_outlines left, same, render_all_outlines]

/-- An empty row of items in a row of its own, and an item that must not change its level. -/
theorem projection_text_decodes_nested :
    Outline.parse "title, 'name':author->\x7bname, meta:\x7b\x7d\x7d" =
        some [.plain "title",
          .braced "'name':author->" [.plain "name", .braced "meta:" []]] ∧
      renderAll [.object "a" [.field "b", .field "c"] ":"] ≠
        renderAll [.object "a" [.field "b"] ":", .field "c"] := by
  constructor
  · exact projection_text_decodes.1
      [.field "title", .entryOf "'name'"
        (.referenceOf "author" [.field "name", .object "meta" [] ":"] true)] (by decide)
  · intro same
    have outlines := (projection_text_decodes.2 _ _ (by decide) (by decide)).mp same
    simp [outline] at outlines

end Projection

end GroqQuery
