import PagedSearch.FieldType
import PagedSearch.Json.Printer

/-!
# Rejections

A request is rejected as a whole for the first thing wrong with it: a field
that is not declared, an operator that does not suit the field, or a value that
is no literal of the field's type. A rejection names the field, and its message
can be shown to the client as it is.
-/
namespace PagedSearch

/-- Why a request is rejected. -/
inductive Rejection where
  | unknownField (entity field : String)
  | unsupportedOperation (field : String) (operator : Operator) (type : FieldType)
  | invalidValue (field raw : String) (expected : FieldType)
  deriving DecidableEq, Repr

/-- An answer of a web service. -/
structure Response where
  status : Nat
  contentType : String
  body : String
  deriving DecidableEq, Repr

namespace Rejection

/-- The field that the rejection is about. -/
def field : Rejection → String
  | unknownField _ field => field
  | unsupportedOperation field _ _ => field
  | invalidValue field _ _ => field

def message : Rejection → String
  | unknownField entity field => "Unknown field '" ++ field ++ "' for " ++ entity
  | unsupportedOperation field operator type =>
    "Operation " ++ operator.word ++ " is not supported for " ++ type.word ++ " field '" ++
      field ++ "'"
  | invalidValue field raw expected =>
    "Invalid value '" ++ raw ++ "' for " ++ expected.word ++ " field '" ++ field ++ "'"

/-- The status of an answer to a request that was understood but cannot be carried out. -/
def status : Nat := 422

/-- The answer to a rejected request: message and field in a JSON body. -/
def response (r : Rejection) : Response :=
  { status := status
    contentType := "application/json"
    body := (Json.object [("error", .text r.message), ("field", .text r.field)]).render }

end Rejection

end PagedSearch
