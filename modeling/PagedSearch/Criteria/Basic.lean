import PagedSearch.Filter.Builder

/-!
# Criteria

A predicate as plain data, for stores that hold documents: a tree of
comparisons joined by conjunctions.
-/
namespace PagedSearch

/-- A predicate on documents. -/
inductive Criteria where
  | compare (field : String) (operator : Operator) (value : Value)
  | both (left right : Criteria)
  deriving DecidableEq, Repr

namespace Criteria

/-- The number of comparisons in a tree. -/
def comparisonCount : Criteria → Nat
  | compare _ _ _ => 1
  | both left right => left.comparisonCount + right.comparisonCount

/-- The comparison of a checked clause. -/
def ofFilter (filter : Filter) : Criteria :=
  compare filter.field filter.operator filter.value

/-- Criteria of checked clauses; joining from left to right gives trees deep on the left. -/
def builder : Builder Criteria where
  clause := ofFilter
  both := both

end Criteria

end PagedSearch
