import PagedSearch.Window

/-!
# Page summaries

What a client is told about the page it gets: the number of pages and of rows,
and the request that produced it.
-/
namespace PagedSearch

/-- The summary of an executed page. -/
structure Summary where
  pages : UInt64
  elements : UInt64
  request : Request
  deriving DecidableEq, Repr

namespace Summary

/-- The page size that a request counts pages by: its size if that is positive, else one. -/
def countedSize (request : Request) : UInt64 :=
  match request.size.bind Window.unsigned? with
  | some size => if 0 < size then size else 1
  | none => 1

/-- The number of pages of a given size that hold a number of rows, the last one perhaps in part. -/
def pagesFor (elements size : Nat) : Nat :=
  (elements + (size - 1)) / size

/-- The summary of a number of rows, with the pages counted by the request's page size. -/
def ofTotal (elements : UInt64) (request : Request) : Summary :=
  { pages := UInt64.ofNat (pagesFor elements.toNat (countedSize request).toNat)
    elements := elements
    request := request }

end Summary

end PagedSearch
