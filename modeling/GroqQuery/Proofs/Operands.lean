import GroqQuery.Proofs.Filter.Operands
import GroqQuery.Proofs.Projection.Operands

/-!
Scalars as the operands of a query. They are literals in clauses and items alike, wherever the input
has them; only what has no finite value is taken for a field.
-/

namespace GroqQuery

open Text

/-- A scalar that is no text is written as a literal of the same value, unless it is a
floating-point number without a finite value; then it is written as a word that a query takes for a
field. Filters and items have the operands of their input, in order and at any depth, and this is
how such a scalar appears among them. -/
theorem scalars_are_literals_iff_finite (value : Value) (text : String)
    (scalar : value.scalar? = some text) (other : value.isText = false) :
    (value.isFinite = true → value.IsWritten text) ∧
      (IsLiteral text ↔ value.isFinite = true) ∧
      (namesField text = true ↔ value.isFinite = false) ∧
      (∀ (input : Value) (filters : List Filter), Filter.read input = .ok filters →
        let operands := filters.flatMap Filter.operands
        operands.length = input.filterOperands.length ∧
          ∀ place : Nat, input.filterOperands[place]? = some (.given value) →
            operands[place]? = some text) ∧
      ∀ (input : Value) (items : List Projection), Projection.read input = .ok items →
        let operands := items.flatMap Projection.operands
        operands.length = input.projectionOperands.length ∧
          ∀ place : Nat, input.projectionOperands[place]? = some (.given value) →
            operands[place]? = some text := by
  refine ⟨value.is_written_of_finite text scalar other, ?_, ?_, ?_, ?_⟩
  · exact value.is_literal_iff text scalar other
  · exact value.names_field_iff text scalar other
  · intro input filters accepted operands
    have appear := Filter.read_operands input filters accepted
    exact ⟨appear.length_eq.symm, Operand.appears_at _ _ appear value text scalar⟩
  · intro input items accepted operands
    have appear := Projection.read_operands input items accepted
    exact ⟨appear.length_eq.symm, Operand.appears_at _ _ appear value text scalar⟩

/-- A negative number that needs an exponent, behind a whole number in a comparison inside a group,
and behind a flag in a reference inside a map. -/
theorem scalars_are_literals_iff_finite_nested :
    let bound : Value := .float ⟨0xBE90C6F7A0B5ED8D⟩
    let comparison : Value := .list [.text "<", bound, .marker .negate]
    let filter : Value :=
      .list [.map [(.text "kind", .int (-3))],
        .list [.map [(.text "rate", comparison)], .map [(.marker .join, .text "&&")],
          .map [(.marker .nest, .bool true), (.text "defined", .null)]]]
    let filters : List Filter :=
      [.equals "kind" "-3",
        .group (.compare "rate" "<" "-2.5e-07" true) [.call "defined" "null"] .both false]
    let projection : Value :=
      .list [.list [.text "a", .tuple [.text "b", .bool true]],
        .map [(.text "c", .list [.list [.text "d", bound, .marker .follow]])]]
    let items : List Projection :=
      [.entryOf "a" (.entry "b" "true"), .object "c" [.reference "d" "-2.5e-07" true] ":"]
    bound.scalar? = some "-2.5e-07" ∧ bound.IsWritten "-2.5e-07" ∧ IsLiteral "-2.5e-07" ∧
      Filter.read filter = .ok filters ∧
      filter.filterOperands = [.given (.int (-3)), .given bound, .given .null] ∧
      (filters.flatMap Filter.operands)[1]? = some "-2.5e-07" ∧
      Projection.read projection = .ok items ∧
      projection.projectionOperands = [.given (.bool true), .given bound] ∧
      (items.flatMap Projection.operands)[1]? = some "-2.5e-07" := by
  intro bound comparison filter filters projection items
  have scalar : bound.scalar? = some "-2.5e-07" := by decide +kernel
  have finite : bound.isFinite = true := by decide
  have compares : Filter.readEntry false "rate" comparison =
      .ok (.compare "rate" "<" "-2.5e-07" true) := by
    simp only [Filter.readEntry, comparison, Value.items?, Filter.readComparison,
      (Value.read_scalar_eq_ok _ _ bound _).mpr scalar]
    rfl
  have plain : Entries.flag [(.text "rate", comparison)] .nest = false := rfl
  have readsRate : Filter.readMap [(.text "rate", comparison)] =
      .ok (.compare "rate" "<" "-2.5e-07" true, []) := by
    rw [Filter.readMap, plain, Filter.readEntries, compares]
    rfl
  have readsFilters : Filter.read filter = .ok filters := by
    simp only [filter, Filter.read, Filter.readList, Filter.readClauses, Filter.readMember,
      Filter.readMembers, readsRate]
    rfl
  have follows : Projection.readPair [.text "d", bound, .marker .follow] =
      .ok (.reference "d" "-2.5e-07" true) := by
    simp only [Projection.readPair, bound, (Value.read_scalar_eq_ok _ _ bound _).mpr scalar]
    rfl
  have readsItems : Projection.read projection = .ok items := by
    simp only [projection, Projection.read, Projection.readItems, Projection.readItem,
      Projection.readObjects, follows]
    rfl
  obtain ⟨written, literal, _, inFilters, inItems⟩ :=
    scalars_are_literals_iff_finite bound "-2.5e-07" scalar rfl
  refine ⟨scalar, written finite, literal.mpr finite, readsFilters, rfl, ?_, readsItems, rfl, ?_⟩
  · exact (inFilters filter filters readsFilters).2 1 rfl
  · exact (inItems projection items readsItems).2 1 rfl

/-- What is no number at all is a scalar too. It is written as a word, and the clause that is read
with it compares the field with another field. -/
theorem scalars_are_literals_not_for_nan :
    let nan : Value := .float ⟨0x7FF8000000000000⟩
    nan.scalar? = some "nan" ∧ namesField "nan" = true ∧
      Filter.read (.map [(.text "price", nan)]) = .ok [.equals "price" "nan"] ∧
      (Filter.equals "price" "nan").render = "price == nan" ∧
      ¬∀ (value : Value) (text : String), value.scalar? = some text → value.isText = false →
        IsLiteral text := by
  intro nan
  have scalar : nan.scalar? = some "nan" := by decide
  have named : namesField "nan" = true := by decide
  refine ⟨scalar, named, rfl, by decide, ?_⟩
  intro literal
  have unnamed := (literal nan "nan" scalar rfl).not_names_field
  rw [named] at unnamed
  cases unnamed

end GroqQuery
