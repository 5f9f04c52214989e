import PagedSearch.Json.Number

/-!
# JSON syntax

What a JSON text spells, before it is taken as a value. A node keeps members
that repeat a name, and keeps parts that are well formed but have no value: a
string with half of a surrogate pair, and a number beyond the range of doubles.
A reader that skips a part never looks at it, so such a part does no harm there.
-/
namespace PagedSearch

/-- The parts of a JSON text. -/
inductive Node where
  | null
  | bool (b : Bool)
  | number (n : Option JsonNumber)
  | text (s : Option String)
  | array (items : List Node)
  | object (members : List (Option String × Node))
  deriving Repr, Inhabited

namespace Node

mutual

/-- How deep arrays and objects are nested. -/
def depth : Node → Nat
  | array items => depthOfItems items + 1
  | object members => depthOfMembers members + 1
  | _ => 0

def depthOfItems : List Node → Nat
  | [] => 0
  | item :: items => max item.depth (depthOfItems items)

def depthOfMembers : List (Option String × Node) → Nat
  | [] => 0
  | (_, value) :: members => max value.depth (depthOfMembers members)

end

/-- Adds a member in front, unless its name follows again: the last member of a name counts. -/
def addMember (name : String) (value : Json) (members : List (String × Json)) :
    List (String × Json) :=
  if (members.lookup name).isSome then members else (name, value) :: members

mutual

/-- The value of a node, none if some part of it has no value. -/
def value? : Node → Option Json
  | null => some .null
  | bool b => some (.bool b)
  | number n => n.map .number
  | text s => s.map .text
  | array items => (itemValues? items).map .array
  | object members => (memberValues? members).map .object

def itemValues? : List Node → Option (List Json)
  | [] => some []
  | item :: items => do return (← item.value?) :: (← itemValues? items)

def memberValues? : List (Option String × Node) → Option (List (String × Json))
  | [] => some []
  | (name, value) :: members => do
    return addMember (← name) (← value.value?) (← memberValues? members)

end

mutual

/-- The syntax of a value. -/
def ofValue : Json → Node
  | .null => null
  | .bool b => bool b
  | .number n => number (some n)
  | .text s => text (some s)
  | .array items => array (ofItemValues items)
  | .object members => object (ofMemberValues members)

def ofItemValues : List Json → List Node
  | [] => []
  | item :: items => ofValue item :: ofItemValues items

def ofMemberValues : List (String × Json) → List (Option String × Node)
  | [] => []
  | (name, value) :: members => (some name, ofValue value) :: ofMemberValues members

end

end Node

end PagedSearch
