import PagedSearch.Value
import PagedSearch.Json.Printer

/-!
# Stored values

The value that a document holds in a field, read as a given type. Null, arrays
and objects have no value of any type. A text field takes every other kind,
numbers and truth values as their JSON text. A number field takes numbers, and
all types but text take the literals that clients write.
-/
namespace PagedSearch

namespace Value

/-- A stored value as a value of the given type. -/
def ofStored? (stored : Json) (type : FieldType) : Option Value :=
  match stored, type with
  | .null, _ | .array _, _ | .object _, _ => none
  | .text s, _ => read? s type
  | other, .text => some (text other.render)
  | .number n, .number => n.toBinary64?.map number
  | _, _ => none

end Value

end PagedSearch
