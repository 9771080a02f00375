import Mathlib.Data.List.Basic

/-!
Brackets in texts. A text is read from the left with the brackets that are still open; a bracket
that closes has to close the innermost of them. Texts that close all they open can stand anywhere
without a trace, so what is put together from them, inside brackets or side by side, closes all it
opens as well.
-/

namespace GroqQuery.Text

inductive Bracket where
  | round
  | square
  | curly
  deriving DecidableEq, Repr

namespace Bracket

def opened? : Char → Option Bracket
  | '(' => some .round
  | '[' => some .square
  | '\x7b' => some .curly
  | _ => none

def closed? : Char → Option Bracket
  | ')' => some .round
  | ']' => some .square
  | '\x7d' => some .curly
  | _ => none

end Bracket

def openAfter? (pending : List Bracket) (char : Char) : Option (List Bracket) :=
  match Bracket.opened? char, Bracket.closed? char with
  | some bracket, _ => some (bracket :: pending)
  | none, none => some pending
  | none, some bracket =>
      match pending with
      | [] => none
      | innermost :: outer => if innermost = bracket then some outer else none

/-- A text that can be read with some brackets open, and leaves others open. -/
def Leads (before : List Bracket) (text : String) (after : List Bracket) : Prop :=
  text.toList.foldlM openAfter? before = some after

instance (before : List Bracket) (text : String) (after : List Bracket) :
    Decidable (Leads before text after) :=
  inferInstanceAs (Decidable (_ = _))

/-- Every bracket in the text is closed by its own kind, and none is closed that was not opened. -/
def IsBracketed (text : String) : Prop := Leads [] text []

instance (text : String) : Decidable (IsBracketed text) :=
  inferInstanceAs (Decidable (Leads _ _ _))

example : IsBracketed "a(b[0]) | c" ∧ ¬IsBracketed "([)]" := by decide

namespace Leads

theorem append {before middle after : List Bracket} {left right : String}
    (first : Leads before left middle) (second : Leads middle right after) :
    Leads before (left ++ right) after := by
  rw [Leads, String.toList_append, List.foldlM_append, first]
  exact second

theorem open_after_outside (before after outer : List Bracket) (char : Char)
    (leads : openAfter? before char = some after) :
    openAfter? (before ++ outer) char = some (after ++ outer) := by
  unfold openAfter? at leads ⊢
  split at leads
  · cases leads
    rfl
  · cases leads
    rfl
  · split at leads
    · cases leads
    next innermost rest =>
      split at leads
      next same =>
        cases leads
        simp [same]
      next => cases leads

theorem outside {before after : List Bracket} {text : String} (leads : Leads before text after)
    (outer : List Bracket) : Leads (before ++ outer) text (after ++ outer) := by
  unfold Leads at leads ⊢
  generalize text.toList = chars at leads
  induction chars generalizing before with
  | nil =>
      cases leads
      rfl
  | cons char chars induction =>
      rw [List.foldlM_cons] at leads ⊢
      cases next : openAfter? before char with
      | none => simp [next] at leads
      | some middle =>
          rw [open_after_outside before middle outer char next]
          rw [next] at leads
          exact induction leads

end Leads

namespace IsBracketed

theorem leads {text : String} (bracketed : IsBracketed text) (pending : List Bracket) :
    Leads pending text pending :=
  Leads.outside bracketed pending

theorem append {left right : String} (first : IsBracketed left) (second : IsBracketed right) :
    IsBracketed (left ++ right) :=
  Leads.append first second

theorem enclosed {front text back : String} {bracket : Bracket}
    (opens : Leads [] front [bracket]) (bracketed : IsBracketed text)
    (closes : Leads [bracket] back []) : IsBracketed (front ++ text ++ back) :=
  (opens.append (bracketed.leads [bracket])).append closes

theorem intercalate (separator : String) (separates : IsBracketed separator)
    (texts : List String) (bracketed : ∀ text ∈ texts, IsBracketed text) :
    IsBracketed (separator.intercalate texts) := by
  induction texts with
  | nil => rfl
  | cons first others induction =>
      have rest := induction fun text member => bracketed text (by simp [member])
      cases others with
      | nil => simpa using bracketed first (by simp)
      | cons second others =>
          rw [String.intercalate_cons_cons]
          exact ((bracketed first (by simp)).append separates).append rest

theorem of_plain (text : String)
    (plain : ∀ char ∈ text.toList, Bracket.opened? char = none ∧ Bracket.closed? char = none) :
    IsBracketed text := by
  unfold IsBracketed Leads
  generalize text.toList = chars at plain
  induction chars with
  | nil => rfl
  | cons char chars induction =>
      have here := plain char (by simp)
      rw [List.foldlM_cons, openAfter?, here.1, here.2]
      exact induction fun other member => plain other (by simp [member])

theorem of_nat (number : Nat) : IsBracketed (Nat.repr number) := by
  apply of_plain
  intro char member
  have digit : char.isDigit = true := by
    rw [Nat.repr_eq_ofList_toDigits, String.toList_ofList] at member
    exact Nat.isDigit_of_mem_toDigits (by decide) (by decide) member
  clear member
  constructor
  · unfold Bracket.opened?
    split
    · cases digit
    · cases digit
    · cases digit
    · rfl
  · unfold Bracket.closed?
    split
    · cases digit
    · cases digit
    · cases digit
    · rfl

theorem of_int (number : Int) : IsBracketed (toString number) := by
  have sign : IsBracketed "-" := rfl
  cases number with
  | ofNat size => exact of_nat size
  | negSucc size => exact sign.append (of_nat (size + 1))

end IsBracketed

end GroqQuery.Text
