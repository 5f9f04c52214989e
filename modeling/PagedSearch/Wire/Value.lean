import PagedSearch.Calendar.Stamp
import PagedSearch.Json.Printer
import PagedSearch.Json.Record
import PagedSearch.Value

/-!
# Typed values in JSON

A typed value is an object with the word of its type and the value: a string, a
number, or the text of a date or an instant. It may also be an array of the two;
there the type has fewer spellings than in an object.
-/
namespace PagedSearch

namespace Value

/-- The word of a type beside a value. -/
def typeWord : FieldType → String
  | .text => "string"
  | .number => "number"
  | .date => "date"
  | .instant => "datetime"

/-- The type of an exact word beside a value. -/
def ofTypeWord? (word : String) : Option FieldType :=
  FieldType.all.find? (typeWord · == word)

/-- The value without its type. -/
def content : Value → Json
  | text s => .text s
  | number x => .number (.real x)
  | date d => .text (String.ofList d.text)
  | instant t => .text (String.ofList t.json)

def toJson (value : Value) : Json :=
  .object [("type", .text (typeWord value.type)), ("value", value.content)]

/-- The value of the given type in a node. -/
def ofContent? (type : FieldType) (node : Node) : Option Value :=
  match type with
  | .text => node.text?.map text
  | .number => node.binary64?.map number
  | .date => (node.text?.bind fun s => Date.ofJsonText? s.toList).map date
  | .instant => (node.text?.bind fun s => Instant.ofJsonText? s.toList).map instant

/-- The typed value in a node: `item?` reads the type in an array and `member?` in an object. -/
def ofNodeWith? (item? member? : Node → Option FieldType) : Node → Option Value
  | .array [type, value] => do ofContent? (← item? type) value
  | node => do
    let [some type, some value] ← node.fields? ["type", "value"] 2 | none
    ofContent? (← member? type) value

/-- The type of a word that must be a string. -/
def typeItem? (node : Node) : Option FieldType := do
  ofTypeWord? (← node.text?)

/-- The type of a word that may also be the name of a null. -/
def typeMember? (node : Node) : Option FieldType := do
  ofTypeWord? (← node.word?)

def ofNode? (node : Node) : Option Value :=
  ofNodeWith? typeItem? typeMember? node

/-- The typed value that a text spells. -/
def ofJsonText? (s : String) : Option Value := do
  ofNode? (← Node.read? s.toList)

theorem ofTypeWord?_typeWord (type : FieldType) : ofTypeWord? (typeWord type) = some type := by
  cases type <;> decide

end Value

end PagedSearch
