import GroqQuery.Filter.Reading
import GroqQuery.Proofs.Reading

/-!
What the readers of filters give, one reader after the other. The clauses of a map are read from its
fields. The members of a group are read from those items of its list that do not steer it, and the
joiner and the negation of the group come from the items that do.
-/

namespace GroqQuery

namespace Entries

def steers (entries : Entries) : Bool := entries.hasMarker .join || entries.hasMarker .negate

theorem is_marking_eq_steers (entries : Entries) : entries.isMarking = entries.steers := by
  rw [isMarking, is_some_marked, is_some_marked, steers]

end Entries

namespace Value

def isNegation : Value → Bool
  | .marker .negate => true
  | _ => false

/-- The entries of a map that names a joiner or a negation and holds nothing but markers. -/
def marking? : Value → Option Entries
  | .map entries =>
      if Entries.steers entries && entries.all fun entry => entry.1.isMarker then some entries
      else none
  | _ => none

def isMarking (value : Value) : Bool := value.marking?.isSome

/-- The joiners that are named in a list by the maps that steer it. What does not hold names none.
-/
def joiners (items : List Value) : List Value :=
  (items.filterMap marking?).filterMap fun entries => (entries.marked? .join).filter Value.holds

/-- Whether a value is a map that names a joiner or a negation beside a key that is no marker. -/
def isMixed : Value → Bool
  | .map entries => Entries.steers entries && entries.any fun entry => !entry.1.isMarker
  | _ => false

end Value

namespace Filter

theorem read_comparison_eq_ok (key : String) (parts : List Value) (clause : Filter) :
    readComparison key parts = .ok clause ↔
      ∃ operator operand options text, parts = .text operator :: operand :: options ∧
        operand.scalar? = some text ∧ (∀ option ∈ options, option.isMarker = true) ∧
        clause = .compare key operator text (options.any Value.isNegation) := by
  constructor
  · intro read
    unfold readComparison at read
    split at read
    next operator operand options =>
      split at read
      next => cases read
      next unrefused =>
        obtain ⟨text, written, same⟩ := (bind_eq_ok _ _ _).mp read
        have scalar := (Value.read_scalar_eq_ok _ _ operand text).mp written
        have markers : options.all Value.isMarker = true := by
          simpa [operand.is_scalar_of_scalar text scalar] using unrefused
        cases same
        exact ⟨operator, operand, options, text, rfl, scalar, List.all_eq_true.mp markers, rfl⟩
    next => cases read
  · intro given
    obtain ⟨operator, operand, options, text, rfl, scalar, markers, rfl⟩ := given
    have all : options.all Value.isMarker = true := List.all_eq_true.mpr markers
    have written : operand.readScalar (.comparisonShape key) FilterFault.overlong = .ok text :=
      (Value.read_scalar_eq_ok _ _ operand text).mpr scalar
    simp only [readComparison, all, written]
    simp
    rfl

theorem read_entry_nested (key : String) (value : Value) (clause : Filter) :
    readEntry true key value = .ok clause ↔
      ∃ text, value.scalar? = some text ∧ clause = .call key text := by
  rw [readEntry, if_pos rfl, bind_eq_ok]
  simp only [Value.read_scalar_eq_ok, Except.ok.injEq, @eq_comm _ clause]

theorem read_entry_plain (key : String) (value : Value) (clause : Filter) :
    readEntry false key value = .ok clause ↔
      (∃ text, value.scalar? = some text ∧ clause = .equals key text) ∨
        ∃ parts, value.items? = some parts ∧ readComparison key parts = .ok clause := by
  rw [readEntry, if_neg (by decide)]
  cases sequence : value.items? with
  | none => simp [bind_eq_ok, Value.read_scalar_eq_ok, @eq_comm _ clause]
  | some parts => simp [value.scalar_sequence parts sequence]

theorem reads_fields_read_entries (nested : Bool) :
    ReadsFields (readEntries nested) fun field => readEntry nested field.1 field.2 where
  empty := rfl
  marker _ _ _ := rfl
  text _ _ _ := rfl
  other key value entries noMarker noText := by
    cases key with
    | marker mark => cases noMarker
    | text name => exact absurd rfl (noText name)
    | _ => exact not_accepted_error _

theorem read_map_eq_ok (entries : Entries) (first : Filter) (others : List Filter) :
    readMap entries = .ok (first, others) ↔
      entries.IsKeyed ∧
        entries.fields.mapM (fun field => readEntry (entries.flag .nest) field.1 field.2) =
          .ok (first :: others) := by
  rw [← (reads_fields_read_entries _).eq_ok, readMap, bind_eq_ok]
  constructor
  · rintro ⟨clauses, read, chosen⟩
    cases clauses with
    | nil => cases chosen
    | cons clause clauses =>
        cases chosen
        exact read
  · intro read
    exact ⟨first :: others, read, rfl⟩

theorem named_joiner_markings (items : List Value) :
    namedJoiner? (items.filterMap Value.marking?) = (Value.joiners items).head? := by
  rw [namedJoiner?, Value.joiners, List.head?_filterMap]

theorem joiner_of_eq_ok (markings : List Entries) (joiner : Joiner) :
    joinerOf markings = .ok joiner ↔
      namedJoiner? markings = none ∧ joiner = .either ∨
        namedJoiner? markings = some (.text joiner.text) := by
  rw [joinerOf]
  cases namedJoiner? markings with
  | none => simp [eq_comm]
  | some named =>
      cases named with
      | text name =>
          simp only [Option.some.injEq, Value.text.injEq, reduceCtorEq, false_and, false_or,
            ← Joiner.of_text_eq_some]
          cases Joiner.ofText? name <;> simp
      | _ => simp

theorem joiner_of_eq_error (markings : List Entries) (fault : FilterFault)
    (refused : joinerOf markings = .error fault) :
    ∃ found, namedJoiner? markings = some found ∧ fault = .ofJoiner found := by
  rw [joinerOf] at refused
  cases named : namedJoiner? markings with
  | none => simp [named] at refused
  | some found =>
      refine ⟨found, rfl, ?_⟩
      cases found with
      | text name =>
          cases joined : Joiner.ofText? name with
          | none => simpa [named, joined, eq_comm] using refused
          | some joiner => simp [named, joined] at refused
      | _ => simpa [named, eq_comm] using refused

def readItem (item : Value) : Except FilterFault Member :=
  match item.marking? with
  | some entries => .ok (.marking entries)
  | none => if item.isMixed then .error .mixedMarkers else Member.clause <$> readMember item

theorem read_members_eq_map_m (items : List Value) : readMembers items = items.mapM readItem := by
  induction items with
  | nil => rfl
  | cons item items induction =>
      rw [List.mapM_cons, ← induction]
      cases item with
      | map entries =>
          rw [readMembers, readItem, Value.marking?, Value.isMixed, Entries.is_marking_eq_steers,
            ← List.not_all_eq_any_not]
          cases Entries.steers entries <;> cases entries.all fun entry => entry.1.isMarker <;> rfl
      | _ => rfl

theorem read_item_eq_ok (item : Value) (member : Member) :
    readItem item = .ok member ↔
      (∃ entries, item.marking? = some entries ∧ member = .marking entries) ∨
        item.marking? = none ∧ item.isMixed = false ∧
          ∃ clause, readMember item = .ok clause ∧ member = .clause clause := by
  rw [readItem]
  cases item.marking? with
  | some entries => simp [@eq_comm _ member]
  | none =>
      cases item.isMixed with
      | true => simp
      | false =>
          cases readMember item with
          | error fault => simp [Functor.map, Except.map]
          | ok clause => simp [Functor.map, Except.map, @eq_comm _ member]

theorem accepted_read_item (item : Value) :
    Accepted (readItem item) ↔
      item.isMarking = true ∨ item.isMixed = false ∧ Accepted (readMember item) := by
  rw [readItem, Value.isMarking]
  cases item.marking? with
  | some entries => simp
  | none => cases item.isMixed <;> simp

theorem read_item_list (value : Value) (isList : value.items?.isSome = true) :
    readItem value = Member.clause <$> readMember value := by
  cases value with
  | list items => rfl
  | tuple items => rfl
  | _ => cases isList

theorem read_members_markings (items : List Value) (members : List Member)
    (read : readMembers items = .ok members) :
    members.filterMap Member.marking? = items.filterMap Value.marking? := by
  rw [read_members_eq_map_m, map_m_eq_ok] at read
  induction read with
  | nil => rfl
  | @cons item member items members first later induction =>
      rcases (read_item_eq_ok item member).mp first with
        ⟨entries, marking, rfl⟩ | ⟨unmarked, _, clause, _, rfl⟩
      · rw [List.filterMap_cons_some marking, ← induction]
        rfl
      · rw [List.filterMap_cons_none unmarked, ← induction]
        rfl

theorem read_members_clauses (items : List Value) (members : List Member)
    (read : readMembers items = .ok members) :
    (items.filter fun item => !item.isMarking).mapM readMember =
      .ok (members.filterMap Member.clause?) := by
  rw [read_members_eq_map_m, map_m_eq_ok] at read
  rw [map_m_eq_ok]
  induction read with
  | nil => exact .nil
  | @cons item member items members first later induction =>
      rcases (read_item_eq_ok item member).mp first with
        ⟨entries, marking, rfl⟩ | ⟨unmarked, _, clause, read, rfl⟩
      · rw [List.filter_cons_of_neg (by simp [Value.isMarking, marking])]
        exact induction
      · rw [List.filter_cons_of_pos (by simp [Value.isMarking, unmarked])]
        exact .cons read induction

theorem group_of_eq_ok (members : List Member) (clause : Filter) :
    groupOf members = .ok clause ↔
      ∃ joiner first others, joinerOf (members.filterMap Member.marking?) = .ok joiner ∧
        members.filterMap Member.clause? = first :: others ∧
        clause = .group first others joiner
          ((members.filterMap Member.marking?).any fun entries => entries.flag .negate) := by
  rw [groupOf, bind_eq_ok]
  cases members.filterMap Member.clause? with
  | nil => simp
  | cons first others => simp [eq_comm]

theorem read_group_eq_ok (items : List Value) (clause : Filter) :
    (readMembers items >>= groupOf) = .ok clause ↔
      (∀ item ∈ items, Accepted (readItem item)) ∧
        ∃ joiner first others, joinerOf (items.filterMap Value.marking?) = .ok joiner ∧
          (items.filter fun item => !item.isMarking).mapM readMember = .ok (first :: others) ∧
          clause = .group first others joiner
            ((items.filterMap Value.marking?).any fun entries => entries.flag .negate) := by
  rw [← accepted_map_m, ← read_members_eq_map_m, bind_eq_ok]
  simp only [group_of_eq_ok]
  constructor
  · rintro ⟨members, read, joiner, first, others, joined, clauses, same⟩
    rw [read_members_markings items members read] at joined same
    refine ⟨⟨members, read⟩, joiner, first, others, joined, ?_, same⟩
    rw [read_members_clauses items members read, clauses]
  · rintro ⟨⟨members, read⟩, joiner, first, others, joined, clauses, same⟩
    rw [read_members_clauses items members read, Except.ok.injEq] at clauses
    rw [← read_members_markings items members read] at joined same
    exact ⟨members, read, joiner, first, others, joined, clauses, same⟩

theorem accepted_group_of (members : List Member) :
    Accepted (groupOf members) ↔
      Accepted (joinerOf (members.filterMap Member.marking?)) ∧
        members.filterMap Member.clause? ≠ [] := by
  rw [groupOf, accepted_bind, Accepted, ← exists_and_right]
  cases members.filterMap Member.clause? with
  | nil => simp
  | cons first others => simp

theorem accepted_read_group (items : List Value) :
    Accepted (readMembers items >>= groupOf) ↔
      (∀ item ∈ items, Accepted (readItem item)) ∧
        Accepted (joinerOf (items.filterMap Value.marking?)) ∧
        ∃ item ∈ items, item.isMarking = false := by
  have some_iff : ∀ members, readMembers items = .ok members →
      (members.filterMap Member.clause? ≠ [] ↔ ∃ item ∈ items, item.isMarking = false) := by
    intro members read
    have clauses := (map_m_eq_ok _ _ _).mp (read_members_clauses items members read)
    rw [← List.length_pos_iff, ← clauses.length_eq, List.length_pos_iff, ne_eq,
      List.filter_eq_nil_iff]
    simp
  rw [← accepted_map_m, ← read_members_eq_map_m, accepted_bind]
  constructor
  · rintro ⟨members, read, accepted⟩
    obtain ⟨joined, nonempty⟩ := (accepted_group_of members).mp accepted
    rw [read_members_markings items members read] at joined
    exact ⟨⟨members, read⟩, joined, (some_iff members read).mp nonempty⟩
  · rintro ⟨⟨members, read⟩, joined, clause⟩
    rw [← read_members_markings items members read] at joined
    exact ⟨members, read,
      (accepted_group_of members).mpr ⟨joined, (some_iff members read).mpr clause⟩⟩

theorem read_member_sequence (value : Value) (items : List Value)
    (sequence : value.items? = some items) :
    readMember value = readMembers items >>= groupOf := by
  obtain rfl | rfl := (value.items_eq_some items).mp sequence
  · rfl
  · rfl

theorem read_member_map (entries : Entries) :
    readMember (.map entries) =
      (fun clauses => conjunction clauses.1 clauses.2) <$> readMap entries := by
  rw [readMember]
  cases readMap entries <;> rfl

/-- Only a map gives more than one clause to the top level. -/
def readTopItem : Value → Except FilterFault (List Filter)
  | .map entries => (fun clauses => clauses.1 :: clauses.2) <$> readMap entries
  | item => (fun clause => [clause]) <$> readMember item

theorem read_top_item_list (item : Value) (isList : item.items?.isSome = true) :
    readTopItem item = (fun clause => [clause]) <$> readMember item := by
  cases item with
  | map entries => cases isList
  | _ => rfl

theorem read_clauses_eq_map_m (items : List Value) :
    readClauses items = List.flatten <$> items.mapM readTopItem := by
  induction items with
  | nil => rfl
  | cons item items induction =>
      have step : readClauses (item :: items) = (do
          let clauses ← readTopItem item
          let others ← readClauses items
          .ok (clauses ++ others)) := by
        cases item with
        | map entries =>
            rw [readClauses, readTopItem]
            cases readMap entries <;> rfl
        | _ =>
            simp only [readClauses, readTopItem]
            cases readMember _ <;> rfl
      rw [step, induction, List.mapM_cons]
      cases readTopItem item with
      | error fault => rfl
      | ok clauses => cases items.mapM readTopItem <;> rfl

theorem read_clauses_singleton (item : Value) : readClauses [item] = readTopItem item := by
  rw [read_clauses_eq_map_m, flatten_map_m_singleton]

theorem pair_or_several (items : List Value) :
    (∃ key operand, items = [.text key, operand]) ∨
      ∀ key operand, items ≠ [.text key, operand] := by
  by_cases pair : ∃ key operand, items = [.text key, operand]
  · exact .inl pair
  · exact .inr fun key operand same => pair ⟨key, operand, same⟩

theorem read_list_pair (key : String) (operand : Value) :
    readList [.text key, operand] =
      (fun clause => [clause]) <$> readEntry false key operand := by
  rw [readList]
  cases readEntry false key operand <;> rfl

theorem read_list_of_several (items : List Value)
    (several : ∀ key operand, items ≠ [.text key, operand]) :
    readList items = readClauses items := by
  unfold readList
  split
  next key operand => exact absurd rfl (several key operand)
  next => rfl

theorem read_map (entries : Entries) :
    read (.map entries) = (fun clauses => clauses.1 :: clauses.2) <$> readMap entries := by
  rw [read]
  cases readMap entries <;> rfl

theorem read_sequence (value : Value) (items : List Value) (sequence : value.items? = some items) :
    read value = readList items := by
  obtain rfl | rfl := (value.items_eq_some items).mp sequence
  · rfl
  · rfl

theorem read_of_several (value : Value) (items : List Value)
    (sequence : value.items? = some items) (several : ∀ key operand, items ≠ [.text key, operand]) :
    read value = readClauses items := by
  rw [read_sequence value items sequence, read_list_of_several items several]

end Filter

end GroqQuery
