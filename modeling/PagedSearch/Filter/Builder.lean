import PagedSearch.Filter.Check

/-!
# Building predicates

A storage says how it expresses one checked clause and how it joins two
predicates. From that any list of clauses is compiled: each clause is checked in
its turn and joined at the end of what is built so far, and the first bad clause
rejects the whole list. A missing or empty list has no predicate, and everything
satisfies it.
-/
namespace PagedSearch

/-- How a storage expresses predicates. -/
structure Builder (P : Type) where
  clause : Filter → P
  both : P → P → P

namespace Builder

variable {P : Type}

/-- What is built so far with one more checked clause at its end. -/
def join (builder : Builder P) (built : Option P) (filter : Filter) : P :=
  match built with
  | none => builder.clause filter
  | some joined => builder.both joined (builder.clause filter)

/-- Checks and joins one clause after another, up to the first bad one. -/
def compileOnto (builder : Builder P) (catalog : Catalog) (entity : String) (built : Option P) :
    List Clause → Except Rejection (Option P)
  | [] => .ok built
  | clause :: clauses => do
    let filter ← clause.check catalog entity
    builder.compileOnto catalog entity (some (builder.join built filter)) clauses

/-- The predicate of a list of clauses, or the rejection of the first bad one. -/
def compile (builder : Builder P) (catalog : Catalog) (entity : String)
    (clauses : Option (List Clause)) : Except Rejection (Option P) :=
  builder.compileOnto catalog entity none (clauses.getD [])

end Builder

end PagedSearch
