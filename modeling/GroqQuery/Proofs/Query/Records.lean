import GroqQuery.Log.Message
import GroqQuery.Proofs.Query.Run
import GroqQuery.Proofs.Query.Texts

/-!
What a query leaves in the log. A rejection is logged where it arises and a text where it is built,
once each; accepted steps leave nothing, and neither does anything that is done with a rejection,
nor a build that comes to no text. So the log of a query has one record for each text that is built
before the first rejected step, then one for that step, and no more.
-/

namespace GroqQuery

inductive Action where
  | step (step : Step)
  | build
  | buildOrFail

namespace Action

def isRejected : Action → Bool
  | .step taken => taken.isRejected
  | _ => false

def isBuild : Action → Bool
  | .step _ => false
  | _ => true

def step? : Action → Option Step
  | .step taken => some taken
  | _ => none

end Action

namespace Outcome

/-- A build leaves the query as it is. -/
def act (outcome : Outcome) : Action → Logged Outcome
  | .step step => outcome.step step
  | .build => (fun _ => outcome) <$> outcome.build
  | .buildOrFail => (fun _ => outcome) <$> outcome.buildOrFail

def actAll (outcome : Outcome) (actions : List Action) : Logged Outcome :=
  actions.foldlM act outcome

def built? (outcome : Outcome) (action : Action) : Option String :=
  if action.isBuild then outcome.build.value.toOption else none

def builtTexts : Outcome → List Action → List String
  | _, [] => []
  | outcome, action :: actions =>
      (outcome.built? action).toList ++ builtTexts (outcome.act action).value actions

end Outcome

/-- What a value is called in a warning about it. -/
inductive Value.HasType : Value → String → Prop
  | null : HasType .null "NoneType"
  | bool (flag : Bool) : HasType (.bool flag) "bool"
  | int (number : Int) : HasType (.int number) "int"
  | float (number : Binary64) : HasType (.float number) "float"
  | text (content : String) : HasType (.text content) "str"
  | list (items : List Value) : HasType (.list items) "list"
  | tuple (items : List Value) : HasType (.tuple items) "tuple"
  | map (entries : Entries) : HasType (.map entries) "dict"
  | marker (mark : Marker) : HasType (.marker mark) "Marker"
  | foreign (object : Foreign) : HasType (.foreign object) object.typeName
  | equals (key value : String) : HasType (.filter (.equals key value)) "FilterPair"
  | compare (key operator value : String) (negated : Bool) :
      HasType (.filter (.compare key operator value negated)) "PairWithOperator"
  | group (first : Filter) (others : List Filter) (joiner : Joiner) (negated : Bool) :
      HasType (.filter (.group first others joiner negated)) "Group"
  | raw (content : String) : HasType (.filter (.raw content)) "Raw"
  | call (name argument : String) : HasType (.filter (.call name argument)) "Nest"
  | field (name : String) : HasType (.projection (.field name)) "FieldName"
  | entry (key value : String) : HasType (.projection (.entry key value)) "ProjectionPair"
  | entryOf (key : String) (item : Projection) :
      HasType (.projection (.entryOf key item)) "ProjectionPair"
  | reference (key value : String) (follow : Bool) :
      HasType (.projection (.reference key value follow)) "FollowPair"
  | referenceOf (key : String) (items : List Projection) (follow : Bool) :
      HasType (.projection (.referenceOf key items follow)) "FollowPair"
  | object (name : String) (items : List Projection) (joiner : String) :
      HasType (.projection (.object name items joiner)) "NestedGroup"

theorem Value.has_type_type_name (value : Value) : value.HasType value.typeName := by
  cases value with
  | filter clause => cases clause <;> constructor
  | projection item => cases item <;> constructor
  | _ => constructor

/-- Whether a limit that a step asks for can be written. -/
def Step.IsShort (step : Step) : Prop :=
  ∀ slice, step.edit? = some (.setLimit slice) → slice.HasNumerals

namespace Record

theorem at_least_debug (records : List Record) : atLeast .debug records = records := by
  rw [atLeast, List.filter_eq_self]
  intro record _
  cases record.severity <;> rfl

def ofRejection (step : Step) : Record :=
  ⟨.warning, queryLogger, "Rejected %s input of type %s",
    [.text step.part.word, .text step.input.typeName]⟩

def ofText (text : String) : Record :=
  ⟨.debug, queryLogger, "Built query=%s", [.text text]⟩

end Record

namespace Message

theorem Fills.append_plain (plain : List Char) {rest filled : List Char} {texts : List String}
    (unmarked : '%' ∉ plain) (fills : Fills rest texts filled) :
    Fills (plain ++ rest) texts (plain ++ filled) := by
  induction plain with
  | nil => exact fills
  | cons char plain induction =>
      rw [List.mem_cons, not_or] at unmarked
      exact .plain (fun same => unmarked.1 same.symm) (induction unmarked.2)

end Message

namespace Formatter

open Message

variable (format : Formatter)

theorem text_rejection (word name : String) :
    format.text? "Rejected %s input of type %s" [.text word, .text name] =
      some ("Rejected " ++ word ++ " input of type " ++ name) := by
  have second : Fills "%s".toList [name] (name.toList ++ []) := .place .done
  have between := Fills.append_plain " input of type ".toList (by decide) second
  have first : Fills _ [word, name] _ := .place between
  have whole : Fills "Rejected %s input of type %s".toList [word, name]
      ("Rejected " ++ word ++ " input of type " ++ name).toList := by
    simpa using Fills.append_plain "Rejected ".toList (by decide) first
  exact format.fill_of_fills whole

theorem text_built (text : String) :
    format.text? "Built query=%s" [.text text] = some ("Built query=" ++ text) := by
  have place : Fills "%s".toList [text] (text.toList ++ []) := .place .done
  have whole : Fills "Built query=%s".toList [text] ("Built query=" ++ text).toList := by
    simpa using Fills.append_plain "Built query=".toList (by decide) place
  exact format.fill_of_fills whole

end Formatter

namespace State

theorem step_records_of_rejected (state : State) (step : Step)
    (rejected : step.isRejected = true) :
    (state.step step).records = [.ofRejection step] := by
  have unread : step.edit? = none := by simpa [Step.isRejected] using rejected
  rw [State.step, unread]
  rfl

theorem step_records_of_accepted (state : State) (step : Step)
    (accepted : step.isRejected = false) : (state.step step).records = [] := by
  cases reads : step.edit? with
  | none => simp [Step.isRejected, reads] at accepted
  | some edit => rw [State.step, reads, Logged.records_pure]

theorem build_records (state : State) :
    state.build.records = state.text?.toList.map .ofText := by
  unfold build
  cases state.text? <;> rfl

end State

namespace Outcome

theorem build_or_fail_records (outcome : Outcome) :
    outcome.buildOrFail.records = outcome.build.records := by
  rw [buildOrFail, Logged.records_bind, Logged.records_pure, List.append_nil]

theorem act_rejected (rejection : Rejection) (action : Action) :
    (Outcome.act (.rejected rejection) action).value = .rejected rejection ∧
      (Outcome.act (.rejected rejection) action).records = [] := by
  cases action <;> exact ⟨rfl, rfl⟩

theorem built_state (state : State) (action : Action) :
    built? (.state state) action = if action.isBuild then state.text? else none := by
  rw [built?, build_state]
  cases state.text? <;> rfl

theorem act_accepted (state : State) (action : Action) (accepted : action.isRejected = false) :
    ∃ next, (Outcome.act (.state state) action).value = .state next ∧
      (Outcome.act (.state state) action).records =
        (built? (.state state) action).toList.map .ofText := by
  cases action with
  | step step =>
      have unrejected : step.isRejected = false := accepted
      cases reads : step.edit? with
      | none => simp [Step.isRejected, reads] at unrejected
      | some edit =>
          refine ⟨edit.apply state, State.step_of_edit state step edit reads, ?_⟩
          rw [act, Outcome.step, State.step_records_of_accepted state step unrejected]
          rfl
  | build =>
      refine ⟨state, rfl, ?_⟩
      rw [act, Logged.records_map, built_state]
      exact state.build_records
  | buildOrFail =>
      refine ⟨state, rfl, ?_⟩
      rw [act, Logged.records_map, built_state, build_or_fail_records]
      exact state.build_records

theorem act_has_text (state : State) (action : Action) (decided : action.isRejected = false)
    (hasText : state.HasText) (short : ∀ step, action = .step step → step.IsShort) :
    ∃ next, (Outcome.act (.state state) action).value = .state next ∧ next.HasText := by
  cases action with
  | step step =>
      cases reads : step.edit? with
      | none =>
          have rejected : (Action.step step).isRejected = true := by
            simp [Action.isRejected, Step.isRejected, reads]
          rw [rejected] at decided
          cases decided
      | some edit =>
          refine ⟨edit.apply state, State.step_of_edit state step edit reads, ?_⟩
          cases edit with
          | setLimit slice =>
              intro set same
              cases same
              exact short step rfl slice reads
          | _ => exact hasText
  | build => exact ⟨state, rfl, hasText⟩
  | buildOrFail => exact ⟨state, rfl, hasText⟩

theorem act_of_rejected (state : State) (action : Action) (decided : action.isRejected = true) :
    ∃ step rejection, action = .step step ∧ step.isRejected = true ∧
      (Outcome.act (.state state) action).value = .rejected rejection ∧
      (Outcome.act (.state state) action).records = [.ofRejection step] := by
  cases action with
  | step step =>
      exact ⟨step, _, rfl, decided, State.step_of_rejected state step decided,
        State.step_records_of_rejected state step decided⟩
  | build => cases decided
  | buildOrFail => cases decided

theorem act_all_cons (outcome : Outcome) (action : Action) (actions : List Action) :
    (outcome.actAll (action :: actions)).records =
      (outcome.act action).records ++ ((outcome.act action).value.actAll actions).records := rfl

theorem act_all_rejected (rejection : Rejection) (actions : List Action) :
    (Outcome.actAll (.rejected rejection) actions).records = [] ∧
      builtTexts (.rejected rejection) actions = [] := by
  induction actions with
  | nil => exact ⟨rfl, rfl⟩
  | cons action actions induction =>
      obtain ⟨kept, silent⟩ := act_rejected rejection action
      have unbuilt : built? (.rejected rejection) action = none := by
        cases action <;> rfl
      rw [act_all_cons, silent, kept, induction.1, builtTexts, unbuilt, kept, induction.2]
      exact ⟨rfl, rfl⟩

theorem built_texts_of_rejected (state : State) (action : Action) (actions : List Action)
    (decided : action.isRejected = true) :
    builtTexts (.state state) (action :: actions) = [] := by
  obtain ⟨step, rejection, rfl, _, reached, _⟩ := act_of_rejected state action decided
  rw [builtTexts, reached, (act_all_rejected rejection actions).2]
  rfl

/-- The log of a whole run: the texts that are built, and then the step that is rejected. -/
theorem act_all_records (start : State) (actions : List Action) :
    (Outcome.actAll (.state start) actions).records =
      (builtTexts (.state start) actions).map .ofText ++
        ((actions.filterMap Action.step?).find? Step.isRejected).toList.map .ofRejection := by
  -- An accepted step changes the state that the others start from, so the start is not fixed.
  induction actions generalizing start with
  | nil => rfl
  | cons action actions induction =>
      rw [act_all_cons]
      cases decided : action.isRejected with
      | false =>
          obtain ⟨next, reached, own⟩ := act_accepted start action decided
          rw [builtTexts, reached, own, induction next, List.map_append, List.append_assoc]
          cases action with
          | step step =>
              have passed : step.isRejected = false := decided
              simp [Action.step?, passed]
          | _ => rfl
      | true =>
          rw [built_texts_of_rejected start action actions decided]
          obtain ⟨step, rejection, rfl, stops, reached, own⟩ :=
            act_of_rejected start action decided
          rw [own, reached, (act_all_rejected rejection actions).1]
          simp [Action.step?, stops]

theorem act_all_severities (start : State) (actions : List Action) :
    (Outcome.actAll (.state start) actions).records.map Record.severity =
      List.replicate (builtTexts (.state start) actions).length .debug ++
        (if actions.any Action.isRejected then [.warning] else []) := by
  have stops : ((actions.filterMap Action.step?).find? Step.isRejected).isSome =
      actions.any Action.isRejected := by
    rw [Bool.eq_iff_iff, List.find?_isSome, ← List.any_eq_true, List.any_filterMap,
      ← Bool.eq_iff_iff]
    congr 1
    funext action
    cases action <;> rfl
  rw [act_all_records, List.map_append, List.map_map, List.map_map, ← stops]
  have texts : (builtTexts (.state start) actions).map (Record.severity ∘ .ofText) =
      List.replicate (builtTexts (.state start) actions).length .debug := List.map_const'
  rw [texts]
  cases (actions.filterMap Action.step?).find? Step.isRejected <;> rfl

theorem built_length_le (outcome : Outcome) (action : Action) :
    (outcome.built? action).toList.length ≤ if action.isBuild then 1 else 0 := by
  unfold built?
  cases action.isBuild <;> cases outcome.build.value.toOption <;> simp

theorem built_length_eq (state : State) (hasText : state.HasText) (action : Action) :
    (built? (.state state) action).toList.length = if action.isBuild then 1 else 0 := by
  obtain ⟨text, found⟩ := state.exists_text_iff.mpr hasText
  rw [built_state, found]
  cases action.isBuild <;> rfl

theorem built_texts_length_le (start : State) (actions : List Action) :
    (builtTexts (.state start) actions).length ≤
      (actions.takeWhile fun action => !action.isRejected).countP Action.isBuild := by
  induction actions generalizing start with
  | nil => exact Nat.le_refl _
  | cons action actions induction =>
      cases decided : action.isRejected with
      | true =>
          rw [built_texts_of_rejected start action actions decided]
          exact Nat.zero_le _
      | false =>
          obtain ⟨next, reached, _⟩ := act_accepted start action decided
          have own := built_length_le (.state start) action
          have later := induction next
          rw [builtTexts, reached, List.length_append,
            List.takeWhile_cons_of_pos (by simp [decided]), List.countP_cons]
          omega

theorem built_texts_length_eq (start : State) (actions : List Action) (hasText : start.HasText)
    (short : ∀ step, .step step ∈ actions → step.IsShort) :
    (builtTexts (.state start) actions).length =
      (actions.takeWhile fun action => !action.isRejected).countP Action.isBuild := by
  induction actions generalizing start with
  | nil => rfl
  | cons action actions induction =>
      cases decided : action.isRejected with
      | true =>
          rw [built_texts_of_rejected start action actions decided,
            List.takeWhile_cons_of_neg (by simp [decided])]
          rfl
      | false =>
          obtain ⟨next, reached, keeps⟩ :=
            act_has_text start action decided hasText fun step same =>
              short step (same ▸ List.mem_cons_self)
          have own := built_length_eq start hasText action
          have later := induction next keeps fun step member =>
            short step (List.mem_cons_of_mem _ member)
          rw [builtTexts, reached, List.length_append,
            List.takeWhile_cons_of_pos (by simp [decided]), List.countP_cons]
          omega

end Outcome

/-- Every rejection and every text is logged, each of them once. A rejected step leaves a warning
with the part and the type of its input, an accepted one leaves nothing. A build that comes to a
text leaves a record with just that text; one that comes to none, because the slice cannot be
written, leaves nothing, and neither does anything that is done with a rejection. A run therefore
leaves a record for each text that is built before its first rejected step and a warning for that
step, all of which are written where nothing is below the level. If all limits can be written, these
are all of the builds. -/
theorem rejections_and_builds_logged_once (format : Formatter) :
    (∀ records : List Record, Record.atLeast .debug records = records) ∧
    (∀ (state : State) (step : Step), step.isRejected = true →
      ∃ record word name, (state.step step).records = [record] ∧
        record.severity = .warning ∧ record.logger = "groqbuilder.builder" ∧
        (step.part, word) ∈ [(.filter, "filter"), (.projection, "projection"),
          (.qualifier, "qualifier"), (.order, "order"), (.limit, "limit")] ∧
        step.input.HasType name ∧
        format.text? record.message record.arguments =
          some ("Rejected " ++ word ++ " input of type " ++ name)) ∧
    (∀ (state : State) (step : Step), step.isRejected = false →
      (state.step step).records = []) ∧
    (∀ state : State, state.HasText → ∃ text record,
      (Outcome.build (.state state)).value = .ok text ∧
      (Outcome.buildOrFail (.state state)).value = .ok text ∧
      (Outcome.build (.state state)).records = [record] ∧
      (Outcome.buildOrFail (.state state)).records = [record] ∧
      record.severity = .debug ∧ record.logger = "groqbuilder.builder" ∧
      format.text? record.message record.arguments = some ("Built query=" ++ text)) ∧
    (∀ state : State, ¬state.HasText →
      (Outcome.build (.state state)).value = .error .overlong ∧
      (Outcome.build (.state state)).records = [] ∧
      (Outcome.buildOrFail (.state state)).records = []) ∧
    (∀ (rejection : Rejection) (action : Action),
      (Outcome.act (.rejected rejection) action).records = []) ∧
    ∀ (start : State) (actions : List Action),
      let severities := (Outcome.actAll (.state start) actions).records.map Record.severity
      let texts := Outcome.builtTexts (.state start) actions
      let builds :=
        (actions.takeWhile fun action => !action.isRejected).countP Action.isBuild
      severities =
          List.replicate texts.length .debug ++
            (if actions.any Action.isRejected then [.warning] else []) ∧
        severities.count .warning = (if actions.any Action.isRejected then 1 else 0) ∧
        severities.count .debug = texts.length ∧ texts.length ≤ builds ∧
        (start.HasText → (∀ step, .step step ∈ actions → step.IsShort) →
          texts.length = builds) := by
  refine ⟨Record.at_least_debug, ?_, State.step_records_of_accepted, ?_, ?_, ?_, ?_⟩
  · intro state step rejected
    refine ⟨.ofRejection step, step.part.word, step.input.typeName,
      State.step_records_of_rejected state step rejected, rfl, rfl, ?_,
      step.input.has_type_type_name, format.text_rejection _ _⟩
    cases step.part <;> simp [Part.word]
  · intro state hasText
    obtain ⟨text, found⟩ := state.exists_text_iff.mpr hasText
    have built := (Outcome.build_state_eq_ok_iff state text).mpr found
    have logged := state.build_records
    rw [found] at logged
    refine ⟨text, .ofText text, built, ?_, logged, ?_, rfl, rfl, format.text_built text⟩
    · rw [Outcome.build_or_fail_value, built]
      rfl
    · rw [Outcome.build_or_fail_records]
      exact logged
  · intro state without
    have logged := state.build_records
    rw [state.text_of_not_has_text without] at logged
    refine ⟨Outcome.build_state_of_not_has_text state without, logged, ?_⟩
    rw [Outcome.build_or_fail_records]
    exact logged
  · intro rejection action
    exact (Outcome.act_rejected rejection action).2
  · intro start actions severities texts builds
    have told : severities = List.replicate texts.length .debug ++
        (if actions.any Action.isRejected then [.warning] else []) :=
      Outcome.act_all_severities start actions
    refine ⟨told, ?_, ?_, Outcome.built_texts_length_le start actions,
      Outcome.built_texts_length_eq start actions⟩
    · rw [told, List.count_append, List.count_replicate]
      cases actions.any Action.isRejected <;> rfl
    · rw [told, List.count_append, List.count_replicate]
      cases actions.any Action.isRejected <;> simp

/-- A text with a percent sign is built twice before a limit is rejected, and once after it. -/
theorem rejections_and_builds_logged_once_around_limit :
    let limit : Step := ⟨.limit, .bool true⟩
    let ordered : Step := ⟨.order, .tuple [.text "'100%s'"]⟩
    let actions : List Action :=
      [.build, .step ordered, .buildOrFail, .step limit, .build, .step ⟨.order, .int 3⟩]
    limit.isRejected = true ∧
      (∃ record, (State.step {} limit).records = [record] ∧ record.severity = .warning ∧
        Formatter.simple.text? record.message record.arguments =
          some "Rejected limit input of type bool") ∧
      (State.step {} ordered).records = [] ∧
      (∃ text record,
        (Outcome.build (.state { order := ["'100%s'"] })).value = .ok text ∧
        (Outcome.build (.state { order := ["'100%s'"] })).records = [record] ∧
        Formatter.simple.text? record.message record.arguments = some ("Built query=" ++ text)) ∧
      (Outcome.actAll (.state {}) actions).records.map Record.severity =
        [.debug, .debug, .warning] := by
  intro limit ordered actions
  have rejected : limit.isRejected = true := rfl
  obtain ⟨_, ofRejected, ofAccepted, ofText, _, _, ofRun⟩ :=
    rejections_and_builds_logged_once Formatter.simple
  refine ⟨rejected, ?_, ofAccepted {} ordered rfl, ?_, ?_⟩
  · obtain ⟨record, word, name, logged, severe, _, named, typed, written⟩ :=
      ofRejected {} limit rejected
    cases typed
    have kind : word = "limit" := by simpa [limit] using named
    subst kind
    exact ⟨record, logged, severe, written⟩
  · obtain ⟨text, record, built, _, logged, _, _, _, written⟩ :=
      ofText { order := ["'100%s'"] } fun slice limited => by cases limited
    exact ⟨text, record, built, logged, written⟩
  · obtain ⟨told, _⟩ := ofRun {} actions
    exact told

/-- A build that leaves no record: it comes to no text, though no step was rejected before it. -/
theorem rejections_and_builds_logged_once_not_if_overlong :
    let number : Int := (9 * 10 ^ 4299 : Nat)
    let limit : Step := ⟨.limit, .tuple [.int number, .int number]⟩
    let actions : List Action := [.step limit, .build, .buildOrFail]
    limit.isRejected = false ∧ actions.countP Action.isBuild = 2 ∧
      (Outcome.actAll (.state {}) actions).records = [] := by
  intro number limit actions
  let limited : State := { limit := some (.window number number) }
  have positive : 0 < number := long_number_pos
  have forward : 0 ≤ number := Int.le_of_lt positive
  have reads : limit.edit? = some (.setLimit (.window number number)) :=
    (Step.limit_edit_eq_some (.tuple [.int number, .int number]) _).mpr
      (.inr ⟨.window number number, rfl, ⟨forward, positive⟩, rfl⟩)
  have accepted : limit.isRejected = false := by rw [Step.isRejected, reads]; rfl
  have reached : (Outcome.act (.state {}) (.step limit)).value = .state limited :=
    Outcome.step_window {} number number forward positive
  have unlogged : (Outcome.act (.state {}) (.step limit)).records = [] :=
    State.step_records_of_accepted {} limit accepted
  have without : limited.text? = none := limited.text_of_not_has_text
    (Outcome.not_has_text_window {} number number not_has_numeral_double)
  have built : limited.build.records = [] := by rw [limited.build_records, without]; rfl
  have ofBuild : (Outcome.act (.state limited) .build).records = [] := by
    rw [Outcome.act, Logged.records_map]
    exact built
  have ofBuildOrFail : (Outcome.act (.state limited) .buildOrFail).records = [] := by
    rw [Outcome.act, Logged.records_map, Outcome.build_or_fail_records]
    exact built
  refine ⟨accepted, rfl, ?_⟩
  calc (Outcome.actAll (.state {}) actions).records
      = (Outcome.act (.state {}) (.step limit)).records ++
          (Outcome.actAll (.state limited) [.build, .buildOrFail]).records := by
        rw [← reached]
        rfl
    _ = (Outcome.act (.state limited) .build).records ++
          ((Outcome.act (.state limited) .buildOrFail).records ++ []) := by
        rw [unlogged]
        rfl
    _ = [] := by rw [ofBuild, ofBuildOrFail]; rfl

end GroqQuery
