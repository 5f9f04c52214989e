import PagedSearch.Request.Basic

/-!
# Repair of requests

A request is repaired before it is planned, so no request is refused for its
page, size or direction. A page that is not positive becomes page 0 and a size
that is not above one becomes size 1. Without sort fields there is no direction;
with them it becomes one of the two words. The filters stay as they are.
-/
namespace PagedSearch

namespace Request

/-- The page index of a request: positive indexes are kept. -/
def repairedPage (page : Option Int64) : Int64 :=
  match page with
  | some index => if 0 < index then index else 0
  | none => 0

/-- The page size of a request: sizes above one are kept. -/
def repairedSize (size : Option Int64) : Int64 :=
  match size with
  | some size => if 1 < size then size else 1
  | none => 1

/-- The request with every part in range. -/
def repair (r : Request) : Request :=
  { page := some (repairedPage r.page)
    size := some (repairedSize r.size)
    direction := r.direction?.map Direction.word
    sort := if r.sortFields = [] then none else r.sort
    filters := r.filters }

end Request

end PagedSearch
