import GroqQuery.Filter

/-!
The boolean grammar in which a filter clause is read. Alternatives are conjunctions with ` || `
between them, conjunctions are operands with ` && ` between them, and an operand is `!(...)`,
`(...)` or an atom. An atom is the text up to the next joiner outside parentheses, the next
parenthesis that closes one not opened in the atom, or the end. The reader knows nothing of filters;
it works on any text.
-/

namespace GroqQuery

/-- A boolean expression over texts that are not looked into. -/
inductive Formula where
  | atom (text : String)
  | negation (inner : Formula)
  | joined (joiner : Joiner) (left right : Formula)
  deriving DecidableEq, Repr

namespace Formula

def holds (valuation : String → Bool) : Formula → Bool
  | .atom text => valuation text
  | .negation inner => !inner.holds valuation
  | .joined .both left right => left.holds valuation && right.holds valuation
  | .joined .either left right => left.holds valuation || right.holds valuation

def depthAfter (depth : Nat) (char : Char) : Nat :=
  if char = '(' then depth + 1 else if char = ')' then depth - 1 else depth

def sign : Joiner → Char
  | .both => '&'
  | .either => '|'

def after? (joiner : Joiner) : List Char → Option (List Char)
  | ' ' :: first :: second :: ' ' :: rest =>
      if first = sign joiner ∧ second = sign joiner then some rest else none
  | _ => none

def isStop : List Char → Bool
  | [] => true
  | ')' :: _ => true
  | text => (after? .both text).isSome || (after? .either text).isSome

def readAtom (depth : Nat) : List Char → List Char × List Char
  | [] => ([], [])
  | char :: rest =>
      if depth = 0 ∧ isStop (char :: rest) then ([], char :: rest)
      else
        let (body, after) := readAtom (depthAfter depth char) rest
        (char :: body, after)

inductive Phrase where
  | operand
  | joined (joiner : Joiner)

def partsOf : Joiner → Phrase
  | .both => .operand
  | .either => .joined .both

/-- A phrase is tried before the looser ones that it is a part of. -/
def Phrase.looseness : Phrase → Nat
  | .operand => 0
  | .joined .both => 1
  | .joined .either => 2

def closed (formula : Formula) : List Char → Option (Formula × List Char)
  | ')' :: rest => some (formula, rest)
  | _ => none

/-- The phrase at the front of a text, with the rest of the text. A phrase never leaves more than it
was given, so lengths are compared for the sake of termination only. -/
def read : Phrase → List Char → Option (Formula × List Char)
  | .joined joiner, text => do
      let (left, rest) ← read (partsOf joiner) text
      match after? joiner rest with
      | none => some (left, rest)
      | some more =>
          if more.length < text.length then do
            let (right, rest) ← read (.joined joiner) more
            some (.joined joiner left right, rest)
          else none
  | .operand, '!' :: '(' :: inner => do
      let (formula, rest) ← read (.joined .either) inner
      closed (.negation formula) rest
  | .operand, '(' :: inner => do
      let (formula, rest) ← read (.joined .either) inner
      closed formula rest
  | .operand, text =>
      let (body, rest) := readAtom 0 text
      some (.atom (String.ofList body), rest)
termination_by phrase text => (text.length, phrase.looseness)
decreasing_by
  · apply Prod.Lex.right
    cases joiner <;> decide
  · apply Prod.Lex.left
    assumption
  · apply Prod.Lex.left
    simp only [List.length_cons]
    omega
  · apply Prod.Lex.left
    simp only [List.length_cons]
    omega

def parse (text : String) : Option Formula :=
  match read (.joined .either) text.toList with
  | some (formula, []) => some formula
  | _ => none

/-- Every parenthesis that closes was opened before, and in the end all are closed. -/
def isBalanced (depth : Nat) : List Char → Bool
  | [] => depth = 0
  | char :: rest => (char ≠ ')' || depth ≠ 0) && isBalanced (depthAfter depth char) rest

def isJoinerFree (depth : Nat) : List Char → Bool
  | first :: second :: rest =>
      ¬(depth = 0 ∧ first = second ∧ (first = '&' ∨ first = '|')) &&
        isJoinerFree (depthAfter depth first) (second :: rest)
  | _ => true

def isWhole (text : List Char) : Bool :=
  isBalanced 0 text && isJoinerFree 0 text

def isOpening : List Char → Bool
  | [] => false
  | char :: _ => char ≠ '(' && char ≠ '!'

def signed (negated : Bool) (formula : Formula) : Formula :=
  if negated then .negation formula else formula

def joinedAll (joiner : Joiner) (first : Formula) : List Formula → Formula
  | [] => first
  | second :: others => .joined joiner first (joinedAll joiner second others)

/-- A text whose front cannot be the second character of a joiner. -/
def isClear : List Char → Bool
  | [] => true
  | char :: _ => char ≠ '&' && char ≠ '|'

theorem is_balanced_append (depth : Nat) (left right : List Char)
    (leftBalanced : isBalanced depth left = true) (rightBalanced : isBalanced 0 right = true) :
    isBalanced depth (left ++ right) = true := by
  induction left generalizing depth with
  | nil =>
      have ground : depth = 0 := by simpa [isBalanced] using leftBalanced
      subst ground
      exact rightBalanced
  | cons char left induction =>
      simp only [isBalanced, Bool.and_eq_true] at leftBalanced
      simp only [List.cons_append, isBalanced, Bool.and_eq_true]
      exact ⟨leftBalanced.1, induction _ leftBalanced.2⟩

theorem is_joiner_free_append (depth : Nat) (left right : List Char)
    (leftBalanced : isBalanced depth left = true) (leftFree : isJoinerFree depth left = true)
    (rightFree : isJoinerFree 0 right = true) (clear : isClear right = true) :
    isJoinerFree depth (left ++ right) = true := by
  induction left generalizing depth with
  | nil =>
      have ground : depth = 0 := by simpa [isBalanced] using leftBalanced
      subst ground
      exact rightFree
  | cons char left induction =>
      simp only [isBalanced, Bool.and_eq_true] at leftBalanced
      cases left with
      | nil =>
          have last := induction _ leftBalanced.2 rfl
          cases right with
          | nil => rfl
          | cons next right =>
              have apart : ¬(depth = 0 ∧ char = next ∧ (char = '&' ∨ char = '|')) := by
                rintro ⟨_, rfl, rfl | rfl⟩ <;> simp [isClear] at clear
              simp only [List.nil_append] at last
              simp [isJoinerFree, apart, last]
      | cons next left =>
          simp only [isJoinerFree, Bool.and_eq_true] at leftFree
          simp only [List.cons_append, isJoinerFree, Bool.and_eq_true]
          exact ⟨leftFree.1, induction _ leftBalanced.2 leftFree.2⟩

theorem is_whole_append (left right : List Char) (leftWhole : isWhole left = true)
    (rightWhole : isWhole right = true) (clear : isClear right = true) :
    isWhole (left ++ right) = true := by
  simp only [isWhole, Bool.and_eq_true] at leftWhole rightWhole ⊢
  constructor
  · exact is_balanced_append 0 left right leftWhole.1 rightWhole.1
  · exact is_joiner_free_append 0 left right leftWhole.1 leftWhole.2 rightWhole.2 clear

/-- A blank keeps what stands behind it apart from what stands before it. -/
theorem is_whole_blank (text : List Char) (whole : isWhole text = true) :
    isWhole (' ' :: text) = true := by
  simp only [isWhole, Bool.and_eq_true] at whole ⊢
  constructor
  · simpa [isBalanced, depthAfter] using whole.1
  · cases text with
    | nil => rfl
    | cons char text => simpa [isJoinerFree, depthAfter] using whole.2

theorem depth_after_succ (depth : Nat) (char : Char) (opened : char ≠ ')' ∨ depth ≠ 0) :
    depthAfter (depth + 1) char = depthAfter depth char + 1 := by
  unfold depthAfter
  by_cases opening : char = '('
  · simp [opening]
  · by_cases closing : char = ')'
    · have positive : depth ≠ 0 := by simpa [closing] using opened
      simp [closing]
      omega
    · simp [opening, closing]

theorem is_whole_inside (depth : Nat) (text : List Char)
    (balanced : isBalanced depth text = true) :
    isBalanced (depth + 1) (text ++ [')']) = true ∧
      isJoinerFree (depth + 1) (text ++ [')']) = true := by
  induction text generalizing depth with
  | nil =>
      have ground : depth = 0 := by simpa [isBalanced] using balanced
      subst ground
      decide
  | cons char text induction =>
      simp only [isBalanced, Bool.and_eq_true, Bool.or_eq_true, decide_eq_true_eq] at balanced
      have deeper := depth_after_succ depth char balanced.1
      have inside := induction _ balanced.2
      rw [← deeper] at inside
      constructor
      · simp [isBalanced, inside.1]
      · cases text with
        | nil => simp [isJoinerFree]
        | cons next text => simpa [isJoinerFree] using inside.2

theorem is_whole_parenthesized (text : List Char) (whole : isWhole text = true) :
    isWhole ('(' :: text ++ [')']) = true := by
  simp only [isWhole, Bool.and_eq_true] at whole
  have inside := is_whole_inside 0 text whole.1
  simp only [isWhole, List.cons_append, Bool.and_eq_true]
  constructor
  · simpa [isBalanced, depthAfter] using inside.1
  · cases text with
    | nil => decide
    | cons char text => simpa [isJoinerFree, depthAfter] using inside.2

theorem is_whole_spaced (left right : List Char) (leftWhole : isWhole left = true)
    (rightWhole : isWhole right = true) : isWhole (left ++ ' ' :: right) = true :=
  is_whole_append left (' ' :: right) leftWhole (is_whole_blank right rightWhole) rfl

theorem is_opening_append (left right : List Char) (opening : isOpening left = true) :
    isOpening (left ++ right) = true := by
  cases left with
  | nil => simp [isOpening] at opening
  | cons char left => exact opening

theorem after_eq_some_iff (joiner : Joiner) (text more : List Char) :
    after? joiner text = some more ↔ text = ' ' :: sign joiner :: sign joiner :: ' ' :: more := by
  constructor
  · intro found
    unfold after? at found
    split at found
    · split at found
      next first second rest signs =>
        cases found
        rw [signs.1, signs.2]
      next => cases found
    · cases found
  · rintro rfl
    simp [after?]

theorem is_stop_iff (text : List Char) :
    isStop text = true ↔
      text = [] ∨ (∃ rest, text = ')' :: rest) ∨ ∃ joiner more, after? joiner text = some more := by
  constructor
  · intro stop
    unfold isStop at stop
    split at stop
    · exact .inl rfl
    · exact .inr (.inl ⟨_, rfl⟩)
    · simp only [Bool.or_eq_true, Option.isSome_iff_exists] at stop
      rcases stop with both | either
      · exact .inr (.inr ⟨.both, both⟩)
      · exact .inr (.inr ⟨.either, either⟩)
  · rintro (rfl | ⟨rest, rfl⟩ | ⟨joiner, more, found⟩)
    · rfl
    · rfl
    · unfold isStop
      split
      · rfl
      · rfl
      · cases joiner <;> simp [found]

theorem is_stop_clear (rest : List Char) (stop : isStop rest = true) : isClear rest = true := by
  rcases (is_stop_iff rest).mp stop with rfl | ⟨after, rfl⟩ | ⟨joiner, more, found⟩
  · rfl
  · rfl
  · rw [(after_eq_some_iff joiner rest more).mp found]
    rfl

theorem is_joiner_free_sign (joiner : Joiner) (rest : List Char) :
    isJoinerFree 0 (sign joiner :: sign joiner :: rest) = false := by
  cases joiner <;> simp [isJoinerFree, sign]

theorem is_clear_sign (joiner : Joiner) (rest : List Char) :
    isClear (sign joiner :: rest) = false := by
  cases joiner <;> simp [isClear, sign]

theorem is_stop_in_atom (char : Char) (body rest : List Char) (opened : char ≠ ')')
    (free : isJoinerFree 0 (char :: body) = true) (clear : isClear rest = true) :
    isStop (char :: (body ++ rest)) = false := by
  rw [← Bool.not_eq_true, is_stop_iff]
  rintro (empty | ⟨after, closing⟩ | ⟨joiner, more, found⟩)
  · cases empty
  · exact opened (List.cons.inj closing).1
  · rw [after_eq_some_iff] at found
    obtain ⟨rfl, signs⟩ := List.cons.inj found
    clear found
    -- The two signs of the joiner stand in the atom, behind it, or one on either side.
    match body with
    | [] =>
        have behind : rest = sign joiner :: sign joiner :: ' ' :: more := signs
        rw [behind, is_clear_sign] at clear
        cases clear
    | [last] =>
        have behind : rest = sign joiner :: ' ' :: more := (List.cons.inj signs).2
        rw [behind, is_clear_sign] at clear
        cases clear
    | first :: second :: body =>
        have firstSign : first = sign joiner := (List.cons.inj signs).1
        have secondSign : second = sign joiner := (List.cons.inj (List.cons.inj signs).2).1
        have later : isJoinerFree 0 (first :: second :: body) = true := by
          simpa [isJoinerFree, depthAfter] using free
        rw [firstSign, secondSign, is_joiner_free_sign] at later
        cases later

theorem read_atom_append (depth : Nat) (body rest : List Char)
    (balanced : isBalanced depth body = true) (free : isJoinerFree depth body = true)
    (stop : isStop rest = true) : readAtom depth (body ++ rest) = (body, rest) := by
  induction body generalizing depth with
  | nil =>
      have ground : depth = 0 := by simpa [isBalanced] using balanced
      subst ground
      cases rest with
      | nil => rfl
      | cons char rest => simp [readAtom, stop]
  | cons char body induction =>
      simp only [isBalanced, Bool.and_eq_true, Bool.or_eq_true, decide_eq_true_eq] at balanced
      have continues : ¬(depth = 0 ∧ isStop (char :: (body ++ rest)) = true) := by
        rintro ⟨rfl, stopped⟩
        have opened : char ≠ ')' := by simpa using balanced.1
        rw [is_stop_in_atom char body rest opened free (is_stop_clear rest stop)] at stopped
        cases stopped
      have tailFree : isJoinerFree (depthAfter depth char) body = true := by
        cases body with
        | nil => rfl
        | cons next body =>
            simp only [isJoinerFree, Bool.and_eq_true] at free
            exact free.2
      rw [List.cons_append, readAtom, if_neg continues, induction _ balanced.2 tailFree]

theorem read_atom (body rest : List Char) (opening : isOpening body = true)
    (whole : isWhole body = true) (stop : isStop rest = true) :
    read .operand (body ++ rest) = some (.atom (String.ofList body), rest) := by
  simp only [isWhole, Bool.and_eq_true] at whole
  cases body with
  | nil => simp [isOpening] at opening
  | cons char body =>
      simp only [isOpening, Bool.and_eq_true, decide_eq_true_eq] at opening
      rw [read, read_atom_append 0 (char :: body) rest whole.1 whole.2 stop]
      · rintro inner same
        exact opening.2 (List.cons.inj same).1
      · rintro inner same
        exact opening.1 (List.cons.inj same).1

theorem read_signed (negated : Bool) (body rest : List Char) (formula : Formula)
    (reads : read (.joined .either) (body ++ ')' :: rest) = some (formula, ')' :: rest)) :
    read .operand ((if negated then ['!'] else []) ++ '(' :: (body ++ ')' :: rest)) =
      some (signed negated formula, rest) := by
  cases negated with
  | false =>
      change read .operand ('(' :: (body ++ ')' :: rest)) = some (formula, rest)
      rw [read, reads]
      rfl
  | true =>
      change read .operand ('!' :: '(' :: (body ++ ')' :: rest)) = some (.negation formula, rest)
      rw [read, reads]
      rfl

theorem read_single (joiner : Joiner) (text rest : List Char) (formula : Formula)
    (reads : read (partsOf joiner) text = some (formula, rest))
    (ends : after? joiner rest = none) :
    read (.joined joiner) text = some (formula, rest) := by
  rw [read, reads]
  dsimp only [Bind.bind, Option.bind]
  rw [ends]

theorem read_several (joiner : Joiner) (text more rest : List Char) (left right : Formula)
    (reads : read (partsOf joiner) (text ++ joiner.separator.toList ++ more) =
      some (left, joiner.separator.toList ++ more))
    (others : read (.joined joiner) more = some (right, rest)) :
    read (.joined joiner) (text ++ joiner.separator.toList ++ more) =
      some (.joined joiner left right, rest) := by
  have separator : joiner.separator.toList = [' ', sign joiner, sign joiner, ' '] := by
    cases joiner <;> decide
  have continues : after? joiner (joiner.separator.toList ++ more) = some more := by
    rw [after_eq_some_iff, separator]
    rfl
  have shorter : more.length < (text ++ joiner.separator.toList ++ more).length := by
    rw [separator]
    simp only [List.length_append, List.length_cons]
    omega
  rw [read, reads]
  dsimp only [Bind.bind, Option.bind]
  rw [continues]
  dsimp only
  rw [if_pos shorter, others]

/-- Between the parts of a phrase, and behind the last one, no other joiner follows. -/
theorem read_part (joiner : Joiner) (text rest : List Char) (formula : Formula)
    (reads : read .operand text = some (formula, rest))
    (apart : ∀ other, other ≠ joiner → after? other rest = none) :
    read (partsOf joiner) text = some (formula, rest) := by
  cases joiner with
  | both => exact reads
  | either => exact read_single .both text rest formula reads (apart .both (by decide))

def isEnd : List Char → Bool
  | [] => true
  | char :: _ => char = ')'

theorem is_stop_of_is_end (rest : List Char) (ends : isEnd rest = true) : isStop rest = true := by
  cases rest with
  | nil => rfl
  | cons char rest =>
      have closing : char = ')' := by simpa [isEnd] using ends
      subst closing
      rfl

theorem after_of_is_end (joiner : Joiner) (rest : List Char) (ends : isEnd rest = true) :
    after? joiner rest = none := by
  cases rest with
  | nil => rfl
  | cons char rest =>
      have closing : char = ')' := by simpa [isEnd] using ends
      subst closing
      rfl

theorem is_stop_separator (joiner : Joiner) (rest : List Char) :
    isStop (joiner.separator.toList ++ rest) = true := by
  cases joiner <;> rfl

theorem after_other (joiner other : Joiner) (rest : List Char) (differs : other ≠ joiner) :
    after? other (joiner.separator.toList ++ rest) = none := by
  cases joiner with
  | both =>
      cases other with
      | both => exact absurd rfl differs
      | either => rfl
  | either =>
      cases other with
      | both => rfl
      | either => exact absurd rfl differs

theorem read_expression (joiner : Joiner) (text rest : List Char) (formula : Formula)
    (reads : read (.joined joiner) text = some (formula, rest)) (ends : isEnd rest = true) :
    read (.joined .either) text = some (formula, rest) := by
  cases joiner with
  | both => exact read_single .either text rest formula reads (after_of_is_end .either rest ends)
  | either => exact reads

end Formula

end GroqQuery
