import PagedSearch.Number.Binary64

/-!
# JSON values

The values that documents hold. A number is a whole number, as texts write it
without point or exponent, or a double. An object is its list of members; a
name that occurs twice has the value of its first member, and readers give
every name once.
-/
namespace PagedSearch

/-- A JSON number. -/
inductive JsonNumber where
  | whole (n : Int)
  | real (x : Binary64)
  deriving DecidableEq, Repr

/-- A JSON value. -/
inductive Json where
  | null
  | bool (b : Bool)
  | number (n : JsonNumber)
  | text (s : String)
  | array (items : List Json)
  | object (members : List (String × Json))
  deriving Repr, Inhabited

namespace Json

/-- The value of a whole number. -/
def whole (n : Int) : Json :=
  .number (.whole n)

/-- The value of a member of an object. Values of other kinds have no members. -/
def get? (name : String) : Json → Option Json
  | object members => members.lookup name
  | _ => none

end Json

end PagedSearch
