import PagedSearch.Criteria.Basic
import PagedSearch.Value.Stored

/-!
# Selection of documents

Whether a document satisfies criteria. The stored field is read as the type of
the value it is compared with. A field that is missing, null or not readable
as that type satisfies no operator, not even inequality. Patterns ignore the
case of ASCII letters and look at texts only.
-/
namespace PagedSearch

namespace Operator

/-- Whether a comparison operator holds of a stored value in the given order to the
expected one. -/
def admits (operator : Operator) (order : Ordering) : Bool :=
  match operator with
  | notEqual => order != .eq
  | greater => order == .gt
  | greaterOrEqual => order != .lt
  | less => order == .lt
  | lessOrEqual => order != .gt
  | _ => order == .eq

/-- Whether a pattern operator finds one text in another. -/
def finds (operator : Operator) (needle text : List Char) : Bool :=
  match operator with
  | startsWith => needle.isPrefixOf text
  | endsWith => needle.isSuffixOf text
  | _ => Text.hasRun needle text

/-- Whether an operator holds between a stored value and the expected one. -/
def holds (operator : Operator) (stored expected : Value) : Bool :=
  if operator.searchesText then
    match stored, expected with
    | .text s, .text needle => operator.finds (Text.upper needle.toList) (Text.upper s.toList)
    | _, _ => false
  else
    match stored.compare? expected with
    | some order => operator.admits order
    | none => false

end Operator

namespace Criteria

/-- Whether a document satisfies criteria. -/
def selects : Criteria → Json → Bool
  | both left right, document => left.selects document && right.selects document
  | compare field operator expected, document =>
    match (document.get? field).bind (Value.ofStored? · expected.type) with
    | some stored => operator.holds stored expected
    | none => false

end Criteria

end PagedSearch
