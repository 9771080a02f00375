import GroqQuery.Projection
import Mathlib.Data.List.TakeWhile

/-!
Outlines of projection texts. An item is a head, with or without further items in braces behind it,
and items stand in a row with a comma and a blank between them. The reader recovers an outline from
its text: a comma or a brace never stands in a head, so each one says what it separates.
-/

namespace GroqQuery

inductive Outline where
  | plain (head : String)
  | braced (head : String) (items : List Outline)
  deriving Repr

namespace Outline

@[elab_as_elim]
theorem tree_induction {motive : Outline → Prop}
    (plain : ∀ head, motive (.plain head))
    (braced : ∀ head items, (∀ item ∈ items, motive item) → motive (.braced head items))
    (outline : Outline) : motive outline := by
  apply @Outline.rec motive (fun items => ∀ item ∈ items, motive item) plain braced
  case nil => intro item absent; cases absent
  case cons =>
    intro first others firstHolds othersHold
    exact List.forall_mem_cons.mpr ⟨firstHolds, othersHold⟩

mutual

def render : Outline → String
  | .plain head => head
  | .braced head items => head ++ "\x7b" ++ ", ".intercalate (renderEach items) ++ "\x7d"
termination_by structural outline => outline

def renderEach : List Outline → List String
  | [] => []
  | item :: rest => item.render :: renderEach rest
termination_by structural items => items

end

@[simp] theorem render_each_eq_map (items : List Outline) :
    renderEach items = items.map render := by
  induction items with
  | nil => rfl
  | cons item rest induction => simp [renderEach, induction]

def renderAll (items : List Outline) : String :=
  ", ".intercalate (items.map render)

def isText (char : Char) : Bool :=
  char ≠ ',' && char ≠ '\x7b' && char ≠ '\x7d'

def isHead (text : String) : Bool := text.toList.all isText

mutual

/-- An outline that its text determines. Without braces behind it a head is not empty. -/
def isClear : Outline → Bool
  | .plain head => head ≠ "" && isHead head
  | .braced head items => isHead head && areClear items
termination_by structural outline => outline

def areClear : List Outline → Bool
  | [] => true
  | item :: rest => item.isClear && areClear rest
termination_by structural items => items

end

theorem are_clear_iff (items : List Outline) :
    areClear items = true ↔ ∀ item ∈ items, item.isClear = true := by
  induction items with
  | nil => simp [areClear]
  | cons item rest induction => simp [areClear, induction]

def isEnd : List Char → Bool
  | [] => true
  | char :: _ => char = '\x7d'

-- What is left of a text is shorter than the text, so the comparisons of lengths never fail.
mutual

def readItem (text : List Char) : Option (Outline × List Char) :=
  let head := String.ofList (text.takeWhile isText)
  match text.dropWhile isText with
  | '\x7b' :: inner =>
      if inner.length < text.length then do
        let (items, rest) ← readBody inner
        match rest with
        | '\x7d' :: rest => some (.braced head items, rest)
        | _ => none
      else none
  | rest => some (.plain head, rest)
termination_by (text.length, 0)

def readItems (text : List Char) : Option (List Outline × List Char) := do
  let (first, rest) ← readItem text
  match rest with
  | ',' :: ' ' :: more =>
      if more.length < text.length then do
        let (others, rest) ← readItems more
        some (first :: others, rest)
      else none
  | rest => some ([first], rest)
termination_by (text.length, 1)

/-- A row of items, of which there may be none. -/
def readBody (text : List Char) : Option (List Outline × List Char) :=
  if isEnd text then some ([], text) else readItems text
termination_by (text.length, 2)

end

def parse (text : String) : Option (List Outline) :=
  match readBody text.toList with
  | some (items, []) => some items
  | _ => none

def isAfter : List Char → Bool
  | [] => true
  | char :: _ => char = ',' || char = '\x7d'

theorem is_after_of_is_end (rest : List Char) (ends : isEnd rest = true) : isAfter rest = true := by
  cases rest with
  | nil => rfl
  | cons char rest =>
      have closing : char = '\x7d' := by simpa [isEnd] using ends
      simp [isAfter, closing]

theorem is_text_of_is_head (head : String) (clean : isHead head = true) :
    ∀ char ∈ head.toList, isText char = true :=
  List.all_eq_true.mp clean

theorem read_item_plain (head : String) (clean : isHead head = true) (rest : List Char)
    (after : isAfter rest = true) :
    readItem (head.toList ++ rest) = some (.plain head, rest) := by
  have texts := is_text_of_is_head head clean
  cases rest with
  | nil =>
      rw [readItem, List.takeWhile_append_of_pos texts, List.dropWhile_append_of_pos texts]
      simp
  | cons char rest =>
      have separates : char = ',' ∨ char = '\x7d' := by simpa [isAfter] using after
      have stops : isText char = false := by
        rcases separates with rfl | rfl <;> rfl
      have noBrace : char ≠ '\x7b' := by
        rcases separates with rfl | rfl <;> decide
      rw [readItem, List.takeWhile_append_of_pos texts, List.dropWhile_append_of_pos texts,
        List.takeWhile_cons, List.dropWhile_cons, stops]
      simp [noBrace]

theorem read_item_braced (head : String) (clean : isHead head = true) (items : List Outline)
    (inner rest : List Char) (body : readBody inner = some (items, '\x7d' :: rest)) :
    readItem (head.toList ++ '\x7b' :: inner) = some (.braced head items, rest) := by
  have texts := is_text_of_is_head head clean
  have stops : isText '\x7b' = false := rfl
  have shorter : inner.length < (head.toList ++ '\x7b' :: inner).length := by
    simp only [List.length_append, List.length_cons]
    omega
  rw [readItem, List.takeWhile_append_of_pos texts, List.dropWhile_append_of_pos texts,
    List.takeWhile_cons, List.dropWhile_cons, stops]
  simp only [Bool.false_eq_true, if_false, List.append_nil, String.ofList_toList]
  rw [if_pos shorter, body]
  rfl

theorem render_front (outline : Outline) (clear : outline.isClear = true) :
    ∃ char text, outline.render.toList = char :: text ∧ char ≠ '\x7d' := by
  have front : ∀ head : String, isHead head = true → ∀ char text,
      head.toList = char :: text → char ≠ '\x7d' := by
    rintro head clean char text spelled rfl
    have texts := is_text_of_is_head head clean '\x7d' (by simp [spelled])
    simp [isText] at texts
  cases outline with
  | plain head =>
      simp only [isClear, Bool.and_eq_true, decide_eq_true_eq] at clear
      cases spelled : head.toList with
      | nil => exact absurd (String.toList_eq_nil_iff.mp spelled) clear.1
      | cons char text => exact ⟨char, text, spelled, front head clear.2 char text spelled⟩
  | braced head items =>
      simp only [isClear, Bool.and_eq_true] at clear
      cases spelled : head.toList with
      | nil =>
          refine ⟨'\x7b', (", ".intercalate (renderEach items) ++ "\x7d").toList, ?_, by decide⟩
          simp [render, spelled]
      | cons char text =>
          refine ⟨char, text ++ ("\x7b" ++ ", ".intercalate (renderEach items) ++ "\x7d").toList,
            ?_, front head clear.1 char text spelled⟩
          simp [render, spelled]

theorem read_items_render (first : Outline) (others : List Outline) (rest : List Char)
    (ends : isEnd rest = true)
    (reads : ∀ item ∈ first :: others, ∀ after, isAfter after = true →
      readItem (item.render.toList ++ after) = some (item, after)) :
    readItems ((renderAll (first :: others)).toList ++ rest) = some (first :: others, rest) := by
  induction others generalizing first with
  | nil =>
      have single := reads first (by simp) rest (is_after_of_is_end rest ends)
      have noComma : ∀ more, rest ≠ ',' :: ' ' :: more := by
        rintro more rfl
        simp [isEnd] at ends
      simp only [renderAll, List.map_cons, List.map_nil, String.intercalate_singleton]
      rw [readItems, single]
      dsimp only [Bind.bind, Option.bind]
      split
      next more => exact absurd rfl (noComma more)
      next => rfl
  | cons second others induction =>
      have tail := induction second fun item member => reads item (by simp [member])
      generalize tailText : (renderAll (second :: others)).toList ++ rest = more at tail
      have head := reads first (by simp) (',' :: ' ' :: more) rfl
      have text : (renderAll (first :: second :: others)).toList ++ rest =
          first.render.toList ++ ',' :: ' ' :: more := by
        rw [← tailText]
        simp [renderAll]
      have shorter : more.length < (first.render.toList ++ ',' :: ' ' :: more).length := by
        simp only [List.length_append, List.length_cons]
        omega
      rw [text, readItems, head]
      simp only [Bind.bind, Option.bind]
      rw [if_pos shorter, tail]

theorem read_body_render (items : List Outline) (rest : List Char) (ends : isEnd rest = true)
    (clear : ∀ item ∈ items, item.isClear = true)
    (reads : ∀ item ∈ items, ∀ after, isAfter after = true →
      readItem (item.render.toList ++ after) = some (item, after)) :
    readBody ((renderAll items).toList ++ rest) = some (items, rest) := by
  cases items with
  | nil =>
      change readBody rest = some ([], rest)
      rw [readBody, if_pos ends]
  | cons first others =>
      obtain ⟨char, text, spelled, differs⟩ := render_front first (clear first (by simp))
      have continues : ¬isEnd ((renderAll (first :: others)).toList ++ rest) = true := by
        cases others <;> simp [renderAll, spelled, isEnd, differs]
      rw [readBody, if_neg continues]
      exact read_items_render first others rest ends reads

theorem read_item_render (outline : Outline) (clear : outline.isClear = true) (rest : List Char)
    (after : isAfter rest = true) :
    readItem (outline.render.toList ++ rest) = some (outline, rest) := by
  induction outline using tree_induction generalizing rest with
  | plain head =>
      simp only [isClear, Bool.and_eq_true] at clear
      exact read_item_plain head clear.2 rest after
  | braced head items itemsRead =>
      simp only [isClear, Bool.and_eq_true, are_clear_iff] at clear
      have body := read_body_render items ('\x7d' :: rest) rfl clear.2 fun item member following =>
        itemsRead item member (clear.2 item member) following
      have text : (Outline.braced head items).render.toList ++ rest =
          head.toList ++ '\x7b' :: ((renderAll items).toList ++ '\x7d' :: rest) := by
        simp [render, renderAll]
      rw [text]
      exact read_item_braced head clear.1 items _ rest body

theorem parse_render_all (items : List Outline) (clear : ∀ item ∈ items, item.isClear = true) :
    parse (renderAll items) = some items := by
  have body := read_body_render items [] rfl clear fun item member following =>
    read_item_render item (clear item member) following
  rw [List.append_nil] at body
  rw [parse, body]

end Outline

end GroqQuery
