import PagedSearch.Criteria.Basic
import PagedSearch.Plan
import PagedSearch.Settings
import PagedSearch.Sql.Conjunction

/-!
# Deployments

A deployment has a catalog of its fields and the settings that choose how its
predicates are represented. Which requests it accepts does not depend on that
choice.
-/
namespace PagedSearch

/-- A predicate in either representation. -/
inductive Selector where
  | conjunction (c : Sql.Conjunction)
  | criteria (c : Criteria)
  deriving DecidableEq, Repr

namespace Selector

def conjunction? : Selector → Option Sql.Conjunction
  | conjunction c => some c
  | criteria _ => none

def criteria? : Selector → Option Criteria
  | criteria c => some c
  | conjunction _ => none

/-- The representation that a predicate has. -/
def representation : Selector → Representation
  | conjunction _ => .condition
  | criteria _ => .criteria

end Selector

/-- A catalog with the settings of a deployment. -/
structure Deployment where
  catalog : Catalog
  settings : Settings

namespace Deployment

/-- The predicate of a list of clauses in the deployment's representation. -/
def compile (deployment : Deployment) (entity : String) (clauses : Option (List Clause)) :
    Except Rejection (Option Selector) :=
  match deployment.settings.representation with
  | .condition =>
    (Sql.Conjunction.builder.compile deployment.catalog entity clauses).map (·.map .conjunction)
  | .criteria =>
    (Criteria.builder.compile deployment.catalog entity clauses).map (·.map .criteria)

/-- The plan of a request in the deployment's representation. -/
def plan (deployment : Deployment) (entity : String) (request : Request) :
    Except Rejection (Plan Selector) :=
  match deployment.settings.representation with
  | .condition =>
    (Sql.Conjunction.builder.plan deployment.catalog entity request).map
      (·.convert fun c => some (.conjunction c))
  | .criteria =>
    (Criteria.builder.plan deployment.catalog entity request).map
      (·.convert fun c => some (.criteria c))

end Deployment

end PagedSearch
