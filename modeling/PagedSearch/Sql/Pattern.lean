import PagedSearch.Operator

/-!
# LIKE patterns

A pattern operator becomes a `LIKE` pattern. Every wildcard and escape of the
client's text is escaped, so the text stands for itself, and only the
wildcards put around it have a meaning. ASCII letters are in upper case, as in
the column that the pattern is matched with.
-/
namespace PagedSearch

namespace Sql

/-- The character that takes the meaning off the next one in a pattern. -/
def escapeMark : Char := '\\'

/-- The wildcard for any run of characters. -/
def anyRun : Char := '%'

/-- The wildcard for any one character. -/
def anyOne : Char := '_'

/-- A pattern that matches exactly the given text. -/
def literalPattern (s : List Char) : List Char :=
  s.flatMap fun c => if c = anyRun ∨ c = anyOne ∨ c = escapeMark then [escapeMark, c] else [c]

/-- The pattern of a pattern operator for a client text. -/
def pattern (operator : Operator) (needle : List Char) : List Char :=
  let literal := literalPattern (Text.upper needle)
  match operator with
  | .startsWith => literal ++ [anyRun]
  | .endsWith => anyRun :: literal
  | _ => anyRun :: (literal ++ [anyRun])

end Sql

end PagedSearch
