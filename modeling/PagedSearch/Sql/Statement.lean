import PagedSearch.Sql.Dialect

/-!
# SQL statements

A statement is a sequence of fixed text and of bound values. It is seen in
three ways: as text with placeholders, as the list of its parameters, and with
its values written as literals. The text with placeholders does not look at
the values.
-/
namespace PagedSearch

namespace Sql

/-- A piece of a statement. -/
inductive Fragment where
  | text (s : List Char)
  | bound (p : Param)
  deriving DecidableEq, Repr

/-- A statement as its pieces. -/
abbrev Statement := List Fragment

namespace Statement

/-- The pieces as text, placeholders counted from `number`. -/
def textFrom (dialect : Dialect) (number : Nat) : Statement → List Char
  | [] => []
  | .text s :: rest => s ++ textFrom dialect number rest
  | .bound _ :: rest => dialect.placeholder number ++ textFrom dialect (number + 1) rest

/-- The text with placeholders. -/
def sql (dialect : Dialect) (statement : Statement) : String :=
  String.ofList (textFrom dialect 1 statement)

/-- The bound values in their order. -/
def params : Statement → List Param
  | [] => []
  | .text _ :: rest => params rest
  | .bound p :: rest => p :: params rest

/-- The text with the values as literals. -/
def inlined (dialect : Dialect) (statement : Statement) : String :=
  String.ofList <| statement.flatMap fun
    | .text s => s
    | .bound p => dialect.literal p

end Statement

end Sql

end PagedSearch
