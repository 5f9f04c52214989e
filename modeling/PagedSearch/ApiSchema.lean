import PagedSearch.FieldType
import PagedSearch.Json.Basic

/-!
# Interface description

The OpenAPI schemas of the types that clients exchange: clauses, requests,
summaries, and the words of field types. Each schema comes with the names of
the schemas that it refers to, through others too.
-/
namespace PagedSearch

/-- A named schema of an interface description. -/
structure ApiSchema where
  name : String
  schema : Json
  references : List String

namespace ApiSchema

/-- A string with a description and an example. -/
private def textProperty (description sample : String) : Json :=
  .object [("type", .text "string"), ("description", .text description), ("example", .text sample)]

/-- A type that may also be null. -/
private def orNull (type : String) : Json :=
  .array [.text type, .text "null"]

/-- A reference to a schema. -/
private def reference (name : String) : Json :=
  .object [("$ref", .text ("#/components/schemas/" ++ name))]

/-- An optional whole number with a description and an example. -/
private def optionalCount (description : String) (sample : Int) : Json :=
  .object [("type", orNull "integer"), ("format", .text "int64"),
    ("description", .text description), ("example", .whole sample)]

/-- A whole number that is not negative. -/
private def count : Json :=
  .object [("type", .text "integer"), ("format", .text "int64"), ("minimum", .whole 0)]

/-- An object whose required properties are given by name. -/
private def record (description : String) (required : List String)
    (properties : List (String × Json)) : Json :=
  .object <|
    [("type", .text "object"), ("description", .text description)] ++
    (if required = [] then [] else [("required", Json.array (required.map .text))]) ++
    [("properties", Json.object properties)]

def clause : ApiSchema where
  name := "FilterClause"
  references := []
  schema := record
    ("One `(field, operation, value)` condition of a filter request.\n\n" ++
      "Values always travel as strings and are coerced to the field's declared\n" ++
      "type during compilation. The operation is a free-form token; unknown\n" ++
      "tokens compile as `EQ`.")
    ["field", "value", "operation"]
    [("field", textProperty "Logical field name, resolved against the entity schema" "createdAt"),
     ("value", textProperty "Raw value" "2002-04-20T12:30:52Z"),
     ("operation", textProperty
       "Operator token: EQ, NE, GT, GET, LT, LET, LIKE, STARTSWITH or ENDSWITH" "NE")]

def request : ApiSchema where
  name := "PageRequest"
  references := ["FilterClause"]
  schema := record
    ("Page, sort and filter description sent by the client.\n\n" ++
      "Every field is optional and may be out of range; `normalize` repairs it\n" ++
      "before execution.\n\n" ++
      "```json\n" ++
      "\x7b\n" ++
      "  \"page\": 0,\n" ++
      "  \"size\": 20,\n" ++
      "  \"direction\": \"desc\",\n" ++
      "  \"sort\": [\"createdAt\", \"name\"],\n" ++
      "  \"filters\": [\x7b\"field\": \"age\", \"value\": \"30\", \"operation\": \"GET\"\x7d]\n" ++
      "\x7d\n" ++
      "```")
    []
    [("page", optionalCount "Zero-based page index" 0),
     ("size", optionalCount "Number of elements per page" 20),
     ("direction", .object [("type", orNull "string"),
       ("description", .text "ASC or DESC, case-insensitive"), ("example", .text "ASC")]),
     ("sort", .object [("type", orNull "array"), ("items", .object [("type", .text "string")]),
       ("description", .text "Fields to order by, most significant first")]),
     ("filters", .object [("type", orNull "array"), ("items", reference "FilterClause"),
       ("description", .text "Conditions combined with AND")])]

def summary : ApiSchema where
  name := "PageResult"
  references := ["FilterClause", "PageRequest"]
  schema := record "Summary of an executed page, echoing the request that produced it."
    ["totalPages", "totalElements", "dataRequest"]
    [("totalPages", count), ("totalElements", count), ("dataRequest", reference "PageRequest")]

def fieldType : ApiSchema where
  name := "FieldType"
  references := []
  schema := .object [("type", .text "string"),
    ("enum", .array (FieldType.all.map fun type => .text type.word)),
    ("description", .text "Semantic type of a filterable or sortable field.")]

/-- Every described type. -/
def all : List ApiSchema :=
  [clause, request, summary, fieldType]

/-- The schema of a name. -/
def named? (name : String) : Option ApiSchema :=
  all.find? (·.name == name)

end ApiSchema

end PagedSearch
