import PagedSearch.Filter.Builder

/-!
# Filters in words

A predicate as a sentence that shows each clause and how clauses were joined.
-/
namespace PagedSearch

namespace Filter

/-- Field, operator word and value of a checked clause. -/
def sentence (filter : Filter) : String :=
  filter.field ++ " " ++ filter.operator.word ++ " " ++ filter.value.display

end Filter

/-- Sentences, with brackets around each conjunction. -/
def sentenceBuilder : Builder String where
  clause := Filter.sentence
  both left right := "(" ++ left ++ " AND " ++ right ++ ")"

end PagedSearch
