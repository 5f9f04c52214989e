import PagedSearch.Json.Printer
import PagedSearch.Json.Record
import PagedSearch.Request.Basic
import PagedSearch.Summary

/-!
# Requests and pages in JSON

The JSON form of clauses, requests, windows and summaries, written and read.
Fields are written in one fixed order, and those of a request that are absent
are left out.
-/
namespace PagedSearch

namespace Clause

def toJson (clause : Clause) : Json :=
  .object [("field", .text clause.field), ("value", .text clause.value),
    ("operation", .text clause.operator)]

def ofNode? (node : Node) : Option Clause := do
  let [some field, some value, some operator] ← node.fields? ["field", "value", "operation"] 3
    | none
  return ⟨← field.text?, ← value.text?, ← operator.text?⟩

end Clause

namespace Request

def toJson (request : Request) : Json :=
  .object <|
    (request.page.map fun page => ("page", Json.whole page.toInt)).toList ++
    (request.size.map fun size => ("size", Json.whole size.toInt)).toList ++
    (request.direction.map fun direction => ("direction", Json.text direction)).toList ++
    (request.sort.map fun sort => ("sort", Json.array (sort.map .text))).toList ++
    (request.filters.map fun filters => ("filters", Json.array (filters.map Clause.toJson))).toList

def ofNode? (node : Node) : Option Request := do
  let [page, size, direction, sort, filters] ←
    node.fields? ["page", "size", "direction", "sort", "filters"] 5 | none
  return {
    page := ← Node.optional? Node.int64? page
    size := ← Node.optional? Node.int64? size
    direction := ← Node.optional? Node.text? direction
    sort := ← Node.optional? (Node.list? Node.text?) sort
    filters := ← Node.optional? (Node.list? Clause.ofNode?) filters }

end Request

namespace Summary

def toJson (summary : Summary) : Json :=
  .object [("totalPages", .whole summary.pages.toNat), ("totalElements", .whole summary.elements.toNat),
    ("dataRequest", summary.request.toJson)]

def ofNode? (node : Node) : Option Summary := do
  let [some pages, some elements, some request] ←
    node.fields? ["totalPages", "totalElements", "dataRequest"] 3 | none
  return ⟨← pages.uint64?, ← elements.uint64?, ← Request.ofNode? request⟩

end Summary

/-- The direction of an enumeration word. -/
def Direction.ofNode? (node : Node) : Option Direction := do
  ofWord? (← node.word?)

/-- The operator of an enumeration word. -/
def Operator.ofNode? (node : Node) : Option Operator := do
  ofWord? (← node.word?)

/-- The field type of an enumeration word. -/
def FieldType.ofNode? (node : Node) : Option FieldType := do
  ofWord? (← node.word?)

namespace SortKey

def toJson (key : SortKey) : Json :=
  .object <|
    [("field", .text key.field), ("direction", .text key.direction.word)] ++
    (key.type.map fun type => ("field_type", Json.text type.word)).toList

def ofNode? (node : Node) : Option SortKey := do
  let [some field, some direction, type] ← node.fields? ["field", "direction", "field_type"] 2
    | none
  return ⟨← field.text?, ← Direction.ofNode? direction, ← Node.optional? FieldType.ofNode? type⟩

end SortKey

namespace Window

def toJson (window : Window) : Json :=
  .object [("page_index", .whole window.index.toNat), ("page_size", .whole window.size.toNat),
    ("order_by", .array (window.order.map SortKey.toJson))]

def ofNode? (node : Node) : Option Window := do
  let [some index, some size, some order] ← node.fields? ["page_index", "page_size", "order_by"] 3
    | none
  return ⟨← index.uint64?, ← size.uint64?, ← order.list? SortKey.ofNode?⟩

end Window

end PagedSearch
