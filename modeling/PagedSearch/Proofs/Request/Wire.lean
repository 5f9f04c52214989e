import PagedSearch.Proofs.Json.Records
import PagedSearch.Wire.Request

/-!
# Requests and pages read back

Clauses, requests, windows and summaries come back from their JSON texts, whatever texts
and 64-bit numbers they hold, however long their lists are, and with every choice of
optional fields present or absent (`records_read_back`). Each type lists its fields once,
with the form that each is written in, and reads them one by one (`ofNode?_of_fields`).
-/
namespace PagedSearch

open Node (ofValue fields?_record)

namespace Clause

/-- The fields of a clause as JSON. -/
def fields (clause : Clause) : List (String × Option Json) :=
  [("field", some (.text clause.field)), ("value", some (.text clause.value)),
    ("operation", some (.text clause.operator))]

theorem toJson_eq_record (clause : Clause) : clause.toJson = Json.record clause.fields :=
  rfl

theorem ofNode?_of_fields {node field value operator : Node} {clause : Clause}
    (found : node.fields? ["field", "value", "operation"] 3 =
      some [some field, some value, some operator])
    (fieldRead : field.text? = some clause.field) (valueRead : value.text? = some clause.value)
    (operatorRead : operator.text? = some clause.operator) : ofNode? node = some clause := by
  simp only [ofNode?, found, fieldRead, valueRead, operatorRead, Option.bind_eq_bind,
    Option.bind_some, Option.pure_def]

/-- Clauses in JSON. -/
def wire : WireForm Clause where
  toJson := toJson
  ofNode? := ofNode?
  readable clause := by
    rw [toJson_eq_record]
    apply Json.readable_record
    simp only [fields, List.forall_mem_cons]
    exact ⟨WireForm.text.readable_map (some clause.field),
      WireForm.text.readable_map (some clause.value),
      WireForm.text.readable_map (some clause.operator), List.forall_mem_nil _⟩
  back clause :=
    ofNode?_of_fields (fields?_record clause.fields
      (show ["field", "value", "operation"].Nodup by decide) 3) rfl rfl rfl
  solid := rfl

end Clause

namespace Request

/-- The fields of a request as JSON, none where the request leaves one out. -/
def fields (request : Request) : List (String × Option Json) :=
  [("page", request.page.map WireForm.int64.toJson),
    ("size", request.size.map WireForm.int64.toJson),
    ("direction", request.direction.map WireForm.text.toJson),
    ("sort", request.sort.map WireForm.text.list.toJson),
    ("filters", request.filters.map Clause.wire.list.toJson)]

theorem toJson_eq_record (request : Request) : request.toJson = Json.record request.fields := by
  simp only [toJson, Json.record, Json.present, fields, List.flatMap_cons, List.flatMap_nil,
    List.append_nil, List.append_assoc, Option.map_map]
  rfl

theorem ofNode?_of_fields {node : Node} {page size direction sort filters : Option Node}
    {request : Request}
    (found : node.fields? ["page", "size", "direction", "sort", "filters"] 5 =
      some [page, size, direction, sort, filters])
    (pageRead : Node.optional? Node.int64? page = some request.page)
    (sizeRead : Node.optional? Node.int64? size = some request.size)
    (directionRead : Node.optional? Node.text? direction = some request.direction)
    (sortRead : Node.optional? (Node.list? Node.text?) sort = some request.sort)
    (filtersRead : Node.optional? (Node.list? Clause.ofNode?) filters = some request.filters) :
    ofNode? node = some request := by
  simp only [ofNode?, found, pageRead, sizeRead, directionRead, sortRead, filtersRead,
    Option.bind_eq_bind, Option.bind_some, Option.pure_def]

/-- Requests in JSON. -/
def wire : WireForm Request where
  toJson := toJson
  ofNode? := ofNode?
  readable request := by
    rw [toJson_eq_record]
    apply Json.readable_record
    simp only [fields, List.forall_mem_cons]
    exact ⟨WireForm.int64.readable_map request.page, WireForm.int64.readable_map request.size,
      WireForm.text.readable_map request.direction, WireForm.text.list.readable_map request.sort,
      Clause.wire.list.readable_map request.filters, List.forall_mem_nil _⟩
  back request := by
    rw [toJson_eq_record]
    exact ofNode?_of_fields (fields?_record request.fields
      (show ["page", "size", "direction", "sort", "filters"].Nodup by decide) 5)
      (WireForm.int64.optional?_map request.page) (WireForm.int64.optional?_map request.size)
      (WireForm.text.optional?_map request.direction)
      (WireForm.text.list.optional?_map request.sort)
      (Clause.wire.list.optional?_map request.filters)
  solid := rfl

end Request

namespace Summary

/-- The fields of a summary as JSON. -/
def fields (summary : Summary) : List (String × Option Json) :=
  [("totalPages", some (.whole summary.pages.toNat)),
    ("totalElements", some (.whole summary.elements.toNat)),
    ("dataRequest", some summary.request.toJson)]

theorem toJson_eq_record (summary : Summary) : summary.toJson = Json.record summary.fields :=
  rfl

theorem ofNode?_of_fields {node pages elements request : Node} {summary : Summary}
    (found : node.fields? ["totalPages", "totalElements", "dataRequest"] 3 =
      some [some pages, some elements, some request])
    (pagesRead : pages.uint64? = some summary.pages)
    (elementsRead : elements.uint64? = some summary.elements)
    (requestRead : Request.ofNode? request = some summary.request) :
    ofNode? node = some summary := by
  simp only [ofNode?, found, pagesRead, elementsRead, requestRead, Option.bind_eq_bind,
    Option.bind_some, Option.pure_def]

/-- Summaries in JSON. -/
def wire : WireForm Summary where
  toJson := toJson
  ofNode? := ofNode?
  readable summary := by
    rw [toJson_eq_record]
    apply Json.readable_record
    simp only [fields, List.forall_mem_cons]
    exact ⟨WireForm.uint64.readable_map (some summary.pages),
      WireForm.uint64.readable_map (some summary.elements),
      Request.wire.readable_map (some summary.request), List.forall_mem_nil _⟩
  back summary :=
    ofNode?_of_fields (fields?_record summary.fields
      (show ["totalPages", "totalElements", "dataRequest"].Nodup by decide) 3)
      (Node.uint64?_whole summary.pages) (Node.uint64?_whole summary.elements)
      (Request.wire.back summary.request)
  solid := rfl

end Summary

namespace Direction

/-- Directions in JSON. -/
def wire : WireForm Direction :=
  .word word ofWord? ofWord?_word

end Direction

namespace FieldType

/-- Field types in JSON. -/
def wire : WireForm FieldType :=
  .word word ofWord? ofWord?_word

end FieldType

namespace SortKey

/-- The fields of a sort key as JSON; the type only once it is known. -/
def fields (key : SortKey) : List (String × Option Json) :=
  [("field", some (.text key.field)), ("direction", some (.text key.direction.word)),
    ("field_type", key.type.map FieldType.wire.toJson)]

theorem toJson_eq_record (key : SortKey) : key.toJson = Json.record key.fields := by
  simp only [toJson, Json.record, Json.present, fields, List.flatMap_cons, List.flatMap_nil,
    List.append_nil, Option.map_map]
  rfl

theorem ofNode?_of_fields {node field direction : Node} {type : Option Node} {key : SortKey}
    (found : node.fields? ["field", "direction", "field_type"] 2 =
      some [some field, some direction, type])
    (fieldRead : field.text? = some key.field)
    (directionRead : Direction.ofNode? direction = some key.direction)
    (typeRead : Node.optional? FieldType.ofNode? type = some key.type) :
    ofNode? node = some key := by
  simp only [ofNode?, found, fieldRead, directionRead, typeRead, Option.bind_eq_bind,
    Option.bind_some, Option.pure_def]

/-- Sort keys in JSON. -/
def wire : WireForm SortKey where
  toJson := toJson
  ofNode? := ofNode?
  readable key := by
    rw [toJson_eq_record]
    apply Json.readable_record
    simp only [fields, List.forall_mem_cons]
    exact ⟨WireForm.text.readable_map (some key.field),
      Direction.wire.readable_map (some key.direction), FieldType.wire.readable_map key.type,
      List.forall_mem_nil _⟩
  back key := by
    rw [toJson_eq_record]
    exact ofNode?_of_fields (fields?_record key.fields
      (show ["field", "direction", "field_type"].Nodup by decide) 2) rfl
      (Direction.wire.back key.direction) (FieldType.wire.optional?_map key.type)
  solid := rfl

end SortKey

namespace Window

/-- The fields of a window as JSON. -/
def fields (window : Window) : List (String × Option Json) :=
  [("page_index", some (.whole window.index.toNat)), ("page_size", some (.whole window.size.toNat)),
    ("order_by", some (SortKey.wire.list.toJson window.order))]

theorem toJson_eq_record (window : Window) : window.toJson = Json.record window.fields :=
  rfl

theorem ofNode?_of_fields {node index size order : Node} {window : Window}
    (found : node.fields? ["page_index", "page_size", "order_by"] 3 =
      some [some index, some size, some order])
    (indexRead : index.uint64? = some window.index) (sizeRead : size.uint64? = some window.size)
    (orderRead : order.list? SortKey.ofNode? = some window.order) :
    ofNode? node = some window := by
  simp only [ofNode?, found, indexRead, sizeRead, orderRead, Option.bind_eq_bind,
    Option.bind_some, Option.pure_def]

/-- Windows in JSON. -/
def wire : WireForm Window where
  toJson := toJson
  ofNode? := ofNode?
  readable window := by
    rw [toJson_eq_record]
    apply Json.readable_record
    simp only [fields, List.forall_mem_cons]
    exact ⟨WireForm.uint64.readable_map (some window.index),
      WireForm.uint64.readable_map (some window.size),
      SortKey.wire.list.readable_map (some window.order), List.forall_mem_nil _⟩
  back window :=
    ofNode?_of_fields (fields?_record window.fields
      (show ["page_index", "page_size", "order_by"].Nodup by decide) 3)
      (Node.uint64?_whole window.index) (Node.uint64?_whole window.size)
      (SortKey.wire.list.back window.order)
  solid := rfl

end Window

/-- Every clause, request, window and summary is read back from its text as it was. So a
text of any of these types that is accepted, however it is spelled, is written in a form
that no longer changes when it is read and written again. -/
theorem records_read_back :
    (∀ clause, Clause.wire.read? (Clause.wire.write clause) = some clause) ∧
    (∀ request, Request.wire.read? (Request.wire.write request) = some request) ∧
    (∀ window, Window.wire.read? (Window.wire.write window) = some window) ∧
    (∀ summary, Summary.wire.read? (Summary.wire.write summary) = some summary) ∧
    ∀ s written,
      (Clause.wire.reprint? s = some written → Clause.wire.reprint? written = some written) ∧
      (Request.wire.reprint? s = some written → Request.wire.reprint? written = some written) ∧
      (Window.wire.reprint? s = some written → Window.wire.reprint? written = some written) ∧
      (Summary.wire.reprint? s = some written → Summary.wire.reprint? written = some written) :=
  ⟨Clause.wire.read?_write, Request.wire.read?_write, Window.wire.read?_write,
    Summary.wire.read?_write, fun _ _ => ⟨Clause.wire.reprint?_of_reprint?,
      Request.wire.reprint?_of_reprint?, Window.wire.reprint?_of_reprint?,
      Summary.wire.reprint?_of_reprint?⟩⟩

/-- A text with blanks, a null and an empty list is written without the blanks and the null,
and that text is written as itself. -/
theorem records_read_back_loose :
    Request.wire.reprint? " \x7b\"sort\" : [ ], \"page\":null, \"size\":-3\x7d" =
        some "\x7b\"size\":-3,\"sort\":[]\x7d" ∧
      Request.wire.reprint? "\x7b\"size\":-3,\"sort\":[]\x7d" =
        some "\x7b\"size\":-3,\"sort\":[]\x7d" := by
  have once : Request.wire.reprint? " \x7b\"sort\" : [ ], \"page\":null, \"size\":-3\x7d" =
      some "\x7b\"size\":-3,\"sort\":[]\x7d" := by
    decide +kernel
  obtain ⟨-, -, -, -, settled⟩ := records_read_back
  exact ⟨once, (settled _ _).2.1 once⟩

end PagedSearch
