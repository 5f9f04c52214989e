import PagedSearch.Rejection
import PagedSearch.Request.Basic
import PagedSearch.Catalog
import PagedSearch.Value

/-!
# Checked clauses

A clause is checked against the schema before anything is built from it: the
field has to be declared, the operator has to suit the field's type, and the
value has to be a literal of that type, in this order. Every storage sees the
same checked clauses, so none accepts what another rejects.
-/
namespace PagedSearch

/-- A clause with its field's type, its operator and its typed value. -/
structure Filter where
  field : String
  operator : Operator
  type : FieldType
  value : Value
  deriving DecidableEq, Repr

namespace Clause

/-- The checked form of a clause on an entity, or why it is rejected. -/
def check (catalog : Catalog) (entity : String) (clause : Clause) : Except Rejection Filter :=
  let operator := Operator.ofToken (some clause.operator)
  match catalog.typeOf? entity clause.field with
  | none => .error (.unknownField entity clause.field)
  | some type =>
    if type.allows operator then
      match Value.read clause.value type with
      | .ok value => .ok ⟨clause.field, operator, type, value⟩
      | .error unreadable => .error (.invalidValue clause.field unreadable.raw unreadable.expected)
    else .error (.unsupportedOperation clause.field operator type)

end Clause

end PagedSearch
