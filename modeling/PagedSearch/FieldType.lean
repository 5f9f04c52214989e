import PagedSearch.Operator

/-!
# Field types

The type of a field that clients may filter or sort by. It decides how values
are read and which operators apply: comparisons suit every type, and patterns
suit text alone.
-/
namespace PagedSearch

/-- The type of a field. -/
inductive FieldType where
  | text | number | date | instant
  deriving DecidableEq, Repr

namespace FieldType

def all : List FieldType :=
  [text, number, date, instant]

/-- The word of a type in requests and messages. -/
def word : FieldType → String
  | text => "STRING"
  | number => "NUMBER"
  | date => "DATE"
  | instant => "DATETIME"

/-- The type of an exact word. -/
def ofWord? (word : String) : Option FieldType :=
  all.find? (·.word == word)

/-- Whether an operator applies to fields of the type. -/
def allows (type : FieldType) (operator : Operator) : Bool :=
  !operator.searchesText || type == text

theorem ofWord?_word (type : FieldType) : ofWord? type.word = some type := by
  cases type <;> decide

end FieldType

end PagedSearch
