import PagedSearch.Text.Blank
import PagedSearch.Text.Letters

/-!
# Page requests

What a client sends: the page it wants, the order, and filter clauses that all
have to hold. Every part is optional and nothing in it is checked yet.
-/
namespace PagedSearch

/-- One clause of a filter, as words. -/
structure Clause where
  field : String
  value : String
  operator : String
  deriving DecidableEq, Repr

/-- A request for one page. -/
structure Request where
  page : Option Int64
  size : Option Int64
  direction : Option String
  sort : Option (List String)
  filters : Option (List Clause)
  deriving DecidableEq, Repr

/-- The direction of a sort key. -/
inductive Direction where
  | ascending | descending
  deriving DecidableEq, Repr

namespace Direction

def word : Direction → String
  | ascending => "ASC"
  | descending => "DESC"

/-- The direction of an exact word. -/
def ofWord? (word : String) : Option Direction :=
  [ascending, descending].find? (·.word == word)

/-- The direction that a client word stands for: descending for its word in any case and with
blanks around it, else ascending. -/
def ofToken (token : Option String) : Direction :=
  match token with
  | some raw =>
    if Text.sameWord (Text.trim raw.toList) descending.word.toList then descending else ascending
  | none => ascending

theorem ofWord?_word (direction : Direction) : ofWord? direction.word = some direction := by
  cases direction <;> decide

theorem ofToken_word (direction : Direction) : ofToken (some direction.word) = direction := by
  cases direction <;> decide

end Direction

namespace Request

/-- A request with nothing in it. -/
def blank : Request :=
  ⟨none, none, none, none, none⟩

/-- The fields to sort by, most significant first. -/
def sortFields (r : Request) : List String :=
  r.sort.getD []

/-- The direction of the order, none for a request without sort fields. -/
def direction? (r : Request) : Option Direction :=
  if r.sortFields = [] then none else some (Direction.ofToken r.direction)

end Request

end PagedSearch
