import PagedSearch.Filter.Builder
import PagedSearch.Window

/-!
# Plans

A plan is everything a storage needs to fetch one page: the repaired request,
the window with the declared type of every sort key, and the predicate of the
filters. A request is planned as a whole or rejected as a whole; sort fields
are looked up before any filter is checked.
-/
namespace PagedSearch

/-- A plan for one page with a predicate of type `P`; without one every row counts. -/
structure Plan (P : Type) where
  request : Request
  window : Window
  predicate : Option P
  deriving DecidableEq, Repr

namespace Plan

variable {P Q : Type}

/-- The plan with its predicate converted; a predicate that cannot be converted is left out. -/
def convert (plan : Plan P) (f : P → Option Q) : Plan Q :=
  { plan with predicate := plan.predicate.bind f }

end Plan

namespace SortKey

/-- A sort key with the declared type of its field. -/
def declared (catalog : Catalog) (entity : String) (key : SortKey) : Except Rejection SortKey :=
  match catalog.typeOf? entity key.field with
  | some type => .ok { key with type := some type }
  | none => .error (.unknownField entity key.field)

end SortKey

namespace Builder

variable {P : Type}

/-- The plan of a request with predicates of one storage. -/
def plan (builder : Builder P) (catalog : Catalog) (entity : String) (request : Request) :
    Except Rejection (Plan P) := do
  let request := request.repair
  let window := Window.ofRequest request
  let order ← window.order.mapM (SortKey.declared catalog entity)
  let predicate ← builder.compile catalog entity request.filters
  return ⟨request, { window with order }, predicate⟩

end Builder

end PagedSearch
