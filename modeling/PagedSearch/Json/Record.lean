import PagedSearch.Json.Reader

/-!
# Records in JSON

A record is an object with named fields, or an array of its fields in their
order. Members with other names are skipped, and a field may not be given
twice. An array may leave out fields at its end that have a default. Words of
an enumeration are strings, or objects with the word as only name and null as
value.
-/
namespace PagedSearch

namespace Node

/-- The string of a node. -/
def text? : Node → Option String
  | text s => s
  | _ => none

/-- The signed 64-bit number of a node. -/
def int64? : Node → Option Int64
  | number (some (.whole n)) =>
    if Int64.minValue.toInt ≤ n ∧ n ≤ Int64.maxValue.toInt then some (Int64.ofInt n) else none
  | _ => none

/-- The unsigned 64-bit number of a node. -/
def uint64? : Node → Option UInt64
  | number (some (.whole n)) =>
    if 0 ≤ n ∧ n < UInt64.size then some (UInt64.ofNat n.toNat) else none
  | _ => none

/-- The double of a node that is a number of either kind. -/
def binary64? : Node → Option Binary64
  | number (some n) => n.toBinary64?
  | _ => none

/-- The values of the items of an array. -/
def list? {α : Type} (item? : Node → Option α) : Node → Option (List α)
  | array items => items.mapM item?
  | _ => none

/-- A field that may be absent or null. -/
def optional? {α : Type} (value? : Node → Option α) : Option Node → Option (Option α)
  | none | some null => some none
  | some node => (value? node).map some

/-- How often a name occurs among members. -/
def countName (name : String) (members : List (Option String × Node)) : Nat :=
  members.countP fun member => member.1 == some name

/-- The nodes of the named fields of a record. An array has at least `required` of them. -/
def fields? (names : List String) (required : Nat) : Node → Option (List (Option Node))
  | object members =>
    if members.all (·.1.isSome) && names.all (countName · members ≤ 1) then
      some (names.map fun name => members.lookup (some name))
    else none
  | array items =>
    if required ≤ items.length ∧ items.length ≤ names.length then
      some (items.map some ++ List.replicate (names.length - items.length) none)
    else none
  | _ => none

/-- The choice that a node gives by its number, counted from zero. -/
def numbered? {α : Type} (choices : List α) : Node → Option α
  | number (some (.whole n)) => if 0 ≤ n then choices[n.toNat]? else none
  | _ => none

/-- The word of an enumeration. -/
def word? : Node → Option String
  | text s => s
  | object [(name, null)] => name
  | _ => none

end Node

end PagedSearch
