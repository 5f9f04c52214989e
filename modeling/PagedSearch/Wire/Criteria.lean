import PagedSearch.Criteria.Basic
import PagedSearch.Wire.Value

/-!
# Criteria in JSON

A tree is an object with the word of its kind and the parts of that kind, or an
array of the kind and the parts. The kind may stand anywhere in the object, so
the object is taken in as a whole before it is read: every part of it must have
a value, skipped members included, and it must keep the nesting limit.

Below the top, the kind may also be given by its number, the type of a value
may be given by its number where the value is an array, and an empty object may
stand for the null behind an enumeration word.
-/
namespace PagedSearch

namespace Criteria

/-- The two kinds of a tree. -/
inductive Kind where
  | compare | both
  deriving DecidableEq, Repr

namespace Kind

def word : Kind → String
  | compare => "compare"
  | both => "and"

def all : List Kind :=
  [compare, both]

def ofWord? (word : String) : Option Kind :=
  all.find? (·.word == word)

/-- The kind at the top of a tree. -/
def atTop? (node : Node) : Option Kind := do
  ofWord? (← node.text?)

/-- The kind of an inner tree. -/
def inside? (node : Node) : Option Kind :=
  (node.numbered? all).or (atTop? node)

end Kind

/-- The node that holds the kind of a tree. -/
def kindNode? : Node → Option Node
  | .array (kind :: _) => some kind
  | .array [] => none
  | node => do
    let [kind] ← node.fields? ["kind"] 1 | none
    kind

/-- The word of an enumeration inside a tree. -/
def wordInside? : Node → Option String
  | .object [(name, .object [])] => name
  | node => node.word?

/-- The typed value inside a tree. -/
def valueInside? : Node → Option Value :=
  Value.ofNodeWith? (fun node => (node.numbered? FieldType.all).or (Value.typeItem? node))
    fun node => do Value.ofTypeWord? (← wordInside? node)

/-- The tree of a node that is nested less deep than `fuel`, with a reader for its kind. -/
def ofNodeWithin? : Nat → (Node → Option Kind) → Node → Option Criteria
  | 0, _, _ => none
  | fuel + 1, kind?, node => do
    match ← kind? (← kindNode? node) with
    | .compare =>
      let [_, some field, some operator, some value] ←
        node.fields? ["kind", "field", "operation", "value"] 4 | none
      return compare (← field.text?) (← Operator.ofWord? (← wordInside? operator))
        (← valueInside? value)
    | .both =>
      let [_, some left, some right] ← node.fields? ["kind", "left", "right"] 3 | none
      return both (← ofNodeWithin? fuel Kind.inside? left) (← ofNodeWithin? fuel Kind.inside? right)

/-- The tree of a node. -/
def ofNode? (node : Node) : Option Criteria :=
  if node.depth ≤ nestingLimit ∧ node.value?.isSome then
    ofNodeWithin? (node.depth + 1) Kind.atTop? node
  else none

/-- The tree that a text spells. -/
def read? (s : String) : Option Criteria := do
  ofNode? (← Node.read? s.toList)

def toJson : Criteria → Json
  | compare field operator value =>
    .object [("kind", .text Kind.compare.word), ("field", .text field),
      ("operation", .text operator.word), ("value", value.toJson)]
  | both left right =>
    .object [("kind", .text Kind.both.word), ("left", left.toJson), ("right", right.toJson)]

end Criteria

end PagedSearch
