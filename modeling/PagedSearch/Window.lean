import PagedSearch.Request.Repair
import PagedSearch.FieldType

/-!
# Page windows

The page to fetch, free of any storage: how many rows to skip, how many to
take, and in which order. The number of rows to skip is capped at the largest
signed 64-bit number, the largest that a database can be given.
-/
namespace PagedSearch

/-- One key of an order. The type is known once a schema was asked. -/
structure SortKey where
  field : String
  direction : Direction
  type : Option FieldType
  deriving DecidableEq, Repr

/-- The page to fetch. -/
structure Window where
  index : UInt64
  size : UInt64
  order : List SortKey
  deriving DecidableEq, Repr

namespace Window

/-- The largest number of rows that a window skips. -/
def maxSkip : Nat := Nat.pow 2 63 - 1

/-- A signed number as an unsigned one, none below zero. -/
def unsigned? (n : Int64) : Option UInt64 :=
  if 0 ≤ n then some n.toUInt64 else none

/-- The page that a request asks for after repair. -/
def ofRequest (request : Request) : Window :=
  let request := request.repair
  let direction := Direction.ofToken request.direction
  { index := (request.page.bind unsigned?).getD 0
    size := (request.size.bind unsigned?).getD 1
    order := request.sortFields.map fun field => ⟨field, direction, none⟩ }

/-- The product of two numbers, or the largest number if the product is larger. -/
def saturatingProduct (a b : UInt64) : UInt64 :=
  if a.toNat * b.toNat < UInt64.size then a * b else UInt64.ofNat (UInt64.size - 1)

/-- The number of rows before the page. -/
def skip (w : Window) : UInt64 :=
  let rows := saturatingProduct w.index w.size
  if maxSkip < rows.toNat then UInt64.ofNat maxSkip else rows

/-- The most rows on the page. -/
def take (w : Window) : UInt64 :=
  w.size

end Window

end PagedSearch
