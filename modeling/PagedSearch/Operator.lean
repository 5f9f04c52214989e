import PagedSearch.Text.Blank
import PagedSearch.Text.Letters

/-!
# Filter operators

The closed set of operators of a filter clause. Clients send them as free
words; a word outside the set is no error and means equality.
-/
namespace PagedSearch

/-- The operators of a filter clause. -/
inductive Operator where
  | equal | notEqual | greater | greaterOrEqual | less | lessOrEqual
  | contains | startsWith | endsWith
  deriving DecidableEq, Repr

namespace Operator

/-- Every operator, in declaration order. -/
def all : List Operator :=
  [equal, notEqual, greater, greaterOrEqual, less, lessOrEqual, contains, startsWith, endsWith]

/-- The word of an operator in requests and messages. -/
def word : Operator → String
  | equal => "EQ"
  | notEqual => "NE"
  | greater => "GT"
  | greaterOrEqual => "GET"
  | less => "LT"
  | lessOrEqual => "LET"
  | contains => "LIKE"
  | startsWith => "STARTSWITH"
  | endsWith => "ENDSWITH"

/-- The operator that a client word names, up to case and surrounding blanks. -/
def named? (token : String) : Option Operator :=
  all.find? fun operator => Text.sameWord operator.word.toList (Text.trim token.toList)

/-- The operator that a client word stands for: the named one, else equality. -/
def ofToken (token : Option String) : Operator :=
  (token.bind named?).getD equal

/-- Operators that look for text inside the field instead of comparing the field. -/
def searchesText : Operator → Bool
  | contains | startsWith | endsWith => true
  | _ => false

/-- The operator of an exact word. -/
def ofWord? (word : String) : Option Operator :=
  all.find? (·.word == word)

theorem ofWord?_word (operator : Operator) : ofWord? operator.word = some operator := by
  cases operator <;> decide

theorem named?_word (operator : Operator) : named? operator.word = some operator := by
  cases operator <;> decide

end Operator

end PagedSearch
