import PagedSearch.Filter.Builder
import PagedSearch.Sql.Pattern
import PagedSearch.Sql.Statement

/-!
# Conjunctions of SQL tests

A predicate for databases is a conjunction of tests. A test compares a column
with a bound value, or matches the upper-case form of a column with a bound
pattern. Client values enter a statement as bound values only.
-/
namespace PagedSearch

namespace Sql

/-- The comparisons of SQL. -/
inductive Relation where
  | equal | notEqual | greater | greaterOrEqual | less | lessOrEqual
  deriving DecidableEq, Repr

namespace Relation

def symbol : Relation → String
  | equal => "="
  | notEqual => "<>"
  | greater => ">"
  | greaterOrEqual => ">="
  | less => "<"
  | lessOrEqual => "<="

/-- The relation of a comparison operator. -/
def ofOperator : Operator → Relation
  | .notEqual => notEqual
  | .greater => greater
  | .greaterOrEqual => greaterOrEqual
  | .less => less
  | .lessOrEqual => lessOrEqual
  | _ => equal

end Relation

/-- A test of one column. -/
inductive Test where
  | compare (column : String) (relation : Relation) (value : Param)
  | like (column : String) (pattern : String)
  deriving DecidableEq, Repr

namespace Test

/-- The test of a checked clause. -/
def ofFilter (filter : Filter) : Test :=
  if filter.operator.searchesText then
    like filter.field (String.ofList (pattern filter.operator filter.value.display.toList))
  else compare filter.field (Relation.ofOperator filter.operator) (Param.ofValue filter.value)

/-- A test as part of a statement. The escape character is written out as a literal. -/
def fragments (dialect : Dialect) : Test → Statement
  | compare column relation value =>
    [.text (dialect.name column ++ " ".toList ++ relation.symbol.toList ++ " ".toList), .bound value]
  | like column pattern =>
    [.text ("UPPER(".toList ++ dialect.name column ++ ") LIKE ".toList), .bound (.text pattern),
     .text (" ESCAPE ".toList ++ dialect.textLiteral [escapeMark])]

end Test

/-- Tests that all have to hold. -/
structure Conjunction where
  tests : List Test
  deriving DecidableEq, Repr

namespace Conjunction

/-- Conjunctions of checked clauses, each clause joined at the end. -/
def builder : Builder Conjunction where
  clause filter := ⟨[Test.ofFilter filter]⟩
  both left right := ⟨left.tests ++ right.tests⟩

/-- Statement parts with a text between them. -/
def joined (between : String) : List Statement → Statement
  | [] => []
  | [part] => part
  | part :: parts => part ++ .text between.toList :: joined between parts

/-- The tests joined by `AND`. -/
def fragments (dialect : Dialect) (conjunction : Conjunction) : Statement :=
  joined " AND " (conjunction.tests.map (Test.fragments dialect))

end Conjunction

end Sql

end PagedSearch
