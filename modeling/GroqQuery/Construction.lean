import GroqQuery.Field

/-!
Finished clauses and items built from named fields. Unknown fields are passed over, a field with a
default may be left out, and nothing is built unless every field is right.
-/

namespace GroqQuery

namespace Value

/-- The `kind` field may be given, but only as the word of the shape. -/
def asKind (shape : Shape) : Value → Except Flaw Unit
  | .text word => if word = shape.kind then .ok () else .error .notAllowed
  | _ => .error .notAllowed

def asJoiner : Value → Except Flaw Joiner
  | .text name =>
      match Joiner.ofText? name with
      | some joiner => .ok joiner
      | none => .error .notAllowed
  | _ => .error .notAllowed

def filter? : Value → Option Filter
  | .filter clause => some clause
  | _ => none

def projection? : Value → Option Projection
  | .projection item => some item
  | _ => none

def text? : Value → Option String
  | .text content => some content
  | _ => none

def asSequence {α : Type} (item? : Value → Option α) (value : Value) : Except Flaw (List α) :=
  match value.items? with
  | none => .error .notSequence
  | some items =>
      match items.mapM item? with
      | some found => .ok found
      | none => .error .nested

def asMembers (value : Value) : Except Flaw (Filter × List Filter) := do
  match ← value.asSequence filter? with
  | [] => .error .tooShort
  | first :: others => .ok (first, others)

def asEntryValue (value : Value) : Except Flaw (String ⊕ Projection) :=
  match value.asText, value.projection? with
  | .ok content, _ => .ok (.inl content)
  | .error _, some item => .ok (.inr item)
  | .error _, none => .error .nested

def asReferenceValue (value : Value) : Except Flaw (String ⊕ List Projection) :=
  match value.asText, value.asSequence projection? with
  | .ok content, _ => .ok (.inl content)
  | .error _, .ok items => .ok (.inr items)
  | .error _, .error _ => .error .nested

end Value

namespace Shape

def build (shape : Shape) (fields : Fields) : Checked Value :=
  let kind := fields.optional "kind" (Value.asKind shape) ()
  let text := fun name => fields.required name Value.asText
  let flag := fun name default => fields.optional name Value.asFlag default
  match shape with
  | .equals =>
      (kind.both ((text "key").both (text "value"))).map
        fun (_, key, value) => .filter (.equals key value)
  | .compare =>
      (kind.both ((text "key").both ((text "operator").both
          ((text "value").both (flag "negate" false))))).map
        fun (_, key, operator, value, negated) => .filter (.compare key operator value negated)
  | .group =>
      (kind.both ((fields.required "children" Value.asMembers).both
          ((fields.optional "join" Value.asJoiner .either).both (flag "negate" false)))).map
        fun (_, (first, others), joiner, negated) => .filter (.group first others joiner negated)
  | .raw => (kind.both (text "text")).map fun (_, content) => .filter (.raw content)
  | .call =>
      (kind.both ((text "key").both (text "value"))).map
        fun (_, name, argument) => .filter (.call name argument)
  | .field => (kind.both (text "name")).map fun (_, name) => .projection (.field name)
  | .entry =>
      (kind.both ((text "key").both (fields.required "value" Value.asEntryValue))).map fun
        | (_, key, .inl value) => .projection (.entry key value)
        | (_, key, .inr item) => .projection (.entryOf key item)
  | .reference =>
      (kind.both ((text "key").both ((fields.required "value" Value.asReferenceValue).both
          (flag "follow" true)))).map fun
        | (_, key, .inl value, follow) => .projection (.reference key value follow)
        | (_, key, .inr items, follow) => .projection (.referenceOf key items follow)
  | .object =>
      (kind.both ((text "alias").both
          ((fields.required "children" (Value.asSequence Value.projection?)).both
            (fields.optional "joiner" Value.asText Projection.entryJoiner)))).map
        fun (_, name, items, joiner) => .projection (.object name items joiner)

end Shape

/-- Finished clauses and items never change, so assigning to a field is refused, whatever the field
is called. -/
def Value.assign (_finished : Value) (field : String) (_new : Value) : Checked Value :=
  .error [⟨field, .frozen⟩]

end GroqQuery
