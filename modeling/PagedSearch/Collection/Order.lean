import PagedSearch.Value.Stored
import PagedSearch.Window

/-!
# Order of documents

Documents are ordered by the values of their sort fields, the first key that
tells two documents apart deciding. A key with a declared type compares the
stored values read as that type, and values that cannot be read come first. A
key without a type compares by the kind of the JSON values. Descending keys
turn every comparison round, so they put missing values last.
-/
namespace PagedSearch

namespace Json

/-- The place of a value's kind in the order of kinds. A missing value counts as null. -/
def kindPlace : Option Json → Nat
  | none | some null => 0
  | some (bool _) => 1
  | some (number _) => 2
  | some (text _) => 3
  | some (array _) => 4
  | some (object _) => 5

end Json

namespace JsonNumber

/-- Order of two numbers as doubles. -/
def compare (a b : JsonNumber) : Ordering :=
  match a.toBinary64?, b.toBinary64? with
  | some x, some y => x.compare y
  | x, y => Ord.compare x.isSome y.isSome

end JsonNumber

namespace Collection

/-- Order of two texts without a declared type: as the types they look like, if those agree,
else as texts. -/
def orderTexts (a b : String) : Ordering :=
  ((Value.guess a).compare? (Value.guess b)).getD (compare a b)

/-- Order of two stored values without a declared type. -/
def orderByKind (a b : Option Json) : Ordering :=
  match a, b with
  | some (.number x), some (.number y) => x.compare y
  | some (.text x), some (.text y) => orderTexts x y
  | some (.bool x), some (.bool y) => compare x y
  | _, _ => compare (Json.kindPlace a) (Json.kindPlace b)

/-- Order of two stored values of a declared type. -/
def orderByType (type : FieldType) (a b : Option Json) : Ordering :=
  match a.bind (Value.ofStored? · type), b.bind (Value.ofStored? · type) with
  | some x, some y => (x.compare? y).getD .eq
  | x, y => compare x.isSome y.isSome

/-- Order of two documents by one key. -/
def orderByKey (key : SortKey) (a b : Json) : Ordering :=
  let x := a.get? key.field
  let y := b.get? key.field
  let order := match key.type with
    | some type => orderByType type x y
    | none => orderByKind x y
  match key.direction with
  | .ascending => order
  | .descending => order.swap

/-- Order of two documents by a list of keys, the most significant first. -/
def orderByKeys : List SortKey → Json → Json → Ordering
  | [], _, _ => .eq
  | key :: keys, a, b => (orderByKey key a b).then (orderByKeys keys a b)

end Collection

end PagedSearch
