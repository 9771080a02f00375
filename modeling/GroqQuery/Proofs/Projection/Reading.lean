import GroqQuery.Projection.Reading
import GroqQuery.Proofs.Reading

/-!
What the readers of projection items give, one reader after the other. A list of items is read item
by item, a map name by name, and under a name there are the items of a list or a single one.
-/

namespace GroqQuery

namespace Projection

theorem read_items_eq_map_m (items : List Value) :
    readItems items = List.flatten <$> items.mapM readItem := by
  induction items with
  | nil => rfl
  | cons item items induction =>
      rw [readItems, induction, List.mapM_cons]
      cases readItem item with
      | error fault => rfl
      | ok first => cases items.mapM readItem <;> rfl

def readContents (value : Value) : Except ProjectionFault (List Projection) :=
  match value.items? with
  | some items => readItems items
  | none => readItem value

theorem read_contents_sequence (value : Value) (items : List Value)
    (sequence : value.items? = some items) : readContents value = readItems items := by
  rw [readContents, sequence]

theorem read_contents_single (value : Value) (single : value.items? = none) :
    readContents value = readItem value := by
  rw [readContents, single]

def readObject (joiner : String) (field : String × Value) : Except ProjectionFault Projection :=
  (fun items => .object field.1 items joiner) <$> readContents field.2

theorem reads_fields_read_objects (joiner : String) :
    ReadsFields (readObjects joiner) (readObject joiner) where
  empty := rfl
  marker _ _ _ := rfl
  text name value entries := by
    cases value with
    | list items =>
        simp only [readObjects, readObject, readContents, Value.items?]
        cases readItems items <;> rfl
    | tuple items =>
        simp only [readObjects, readObject, readContents, Value.items?]
        cases readItems items <;> rfl
    | _ =>
        simp only [readObjects, readObject, readContents, Value.items?]
        cases readItem _ <;> rfl
  other key value entries noMarker noText := by
    cases key with
    | marker mark => cases noMarker
    | text name => exact absurd rfl (noText name)
    | _ => exact not_accepted_error _

end Projection

end GroqQuery
