import PagedSearch.Sql.Conjunction
import PagedSearch.Window

/-!
# SQL queries

A query reads columns of one table under a condition, in an order, and within
a window of rows. It is written as a statement; the count of its rows is
another statement around the query without order and window.
-/
namespace PagedSearch

namespace Sql

/-- A table and the columns to read; no columns means all of them. -/
structure Table where
  name : String
  columns : List String
  deriving DecidableEq, Repr

/-- A query on one table. -/
structure Query where
  table : Table
  condition : Option Conjunction
  order : List (String × Direction)
  bounds : Option Window
  deriving DecidableEq, Repr

namespace Table

/-- The column list of a query. -/
def columnList (dialect : Dialect) (table : Table) : List Char :=
  if table.columns = [] then ['*']
  else
    List.intercalate ", ".toList <| table.columns.map fun column =>
      dialect.name table.name ++ '.' :: dialect.name column

/-- The query of all rows. -/
def all (table : Table) : Query :=
  ⟨table, none, [], none⟩

end Table

namespace Query

/-- One key of the order. -/
def orderKey (dialect : Dialect) (key : String × Direction) : List Char :=
  dialect.name key.1 ++ ' ' :: key.2.word.toList

/-- The query without condition, order and window. -/
def head (dialect : Dialect) (query : Query) : Statement :=
  [.text ("SELECT ".toList ++ query.table.columnList dialect ++ " FROM ".toList ++
    dialect.name query.table.name)]

def whereFragments (dialect : Dialect) (query : Query) : Statement :=
  match query.condition with
  | some condition => .text " WHERE ".toList :: condition.fragments dialect
  | none => []

def orderFragments (dialect : Dialect) (query : Query) : Statement :=
  if query.order = [] then []
  else
    [.text (" ORDER BY ".toList ++
      List.intercalate ", ".toList (query.order.map (orderKey dialect)))]

def boundFragments (query : Query) : Statement :=
  match query.bounds with
  | some window =>
    [.text " LIMIT ".toList, .bound (.count window.take),
     .text " OFFSET ".toList, .bound (.count window.skip)]
  | none => []

/-- The statement that reads the rows. -/
def statement (dialect : Dialect) (query : Query) : Statement :=
  query.head dialect ++ query.whereFragments dialect ++ query.orderFragments dialect ++
    query.boundFragments

/-- The statement that counts the rows of the query before its window. -/
def countStatement (dialect : Dialect) (query : Query) : Statement :=
  .text "SELECT COUNT(*) AS num_items FROM (".toList ::
    (query.head dialect ++ query.whereFragments dialect ++
      [.text (") AS ".toList ++ dialect.name "sub_query")])

end Query

end Sql

end PagedSearch
