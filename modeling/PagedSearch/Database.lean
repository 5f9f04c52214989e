import PagedSearch.Plan
import PagedSearch.Sql.Query
import PagedSearch.Summary

/-!
# Pages of a database

A plan with a condition is carried out on a database in two statements: one
counts the rows and one reads the page. A database is what answers these
statements. The answer to a plan comes with the statements that were sent, and
after a failure no more are sent.
-/
namespace PagedSearch

namespace Plan

/-- The query of a plan on a table. -/
def query (plan : Plan Sql.Conjunction) (table : Sql.Table) : Sql.Query :=
  { table
    condition := plan.predicate
    order := plan.window.order.map fun key => (key.field, key.direction)
    bounds := some plan.window }

end Plan

/-- What answers statements: a count, which may have no row, and the rows of a query. A
failure is a text. -/
structure Database (Row : Type) where
  count : Sql.Statement → Except String (Option UInt64)
  rows : Sql.Statement → Except String (List Row)

/-- The statements that were sent, and what came of them. -/
structure Exchange (α : Type) where
  sent : List Sql.Statement
  outcome : Except String α

namespace Database

/-- The number of pages that hold a number of rows: the full pages, and one for a remainder. -/
def pageCount (rows size : UInt64) : UInt64 :=
  rows / size + (if rows % size = 0 then 0 else 1)

variable {Row : Type}

/-- Counts the rows of a plan and reads its page. -/
def page (database : Database Row) (dialect : Sql.Dialect) (table : Sql.Table)
    (plan : Plan Sql.Conjunction) : Exchange (List Row × Summary) :=
  let query := plan.query table
  let counting := query.countStatement dialect
  let reading := query.statement dialect
  match database.count counting with
  | .error failure => ⟨[counting], .error failure⟩
  | .ok count =>
    match database.rows reading with
    | .error failure => ⟨[counting, reading], .error failure⟩
    | .ok rows =>
      let elements := count.getD 0
      let summary := ⟨pageCount elements plan.window.size, elements, plan.request⟩
      ⟨[counting, reading], .ok (rows, summary)⟩

end Database

end PagedSearch
