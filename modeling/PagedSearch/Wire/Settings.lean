import PagedSearch.Json.Printer
import PagedSearch.Json.Record
import PagedSearch.Settings

/-!
# Settings in JSON

The JSON form of settings. A representation that is not given is the default.
-/
namespace PagedSearch

/-- The representation of an enumeration word. -/
def Representation.ofNode? (node : Node) : Option Representation := do
  ofWord? (← node.word?)

namespace Settings

def toJson (settings : Settings) : Json :=
  .object [("representation", .text settings.representation.word)]

def ofNode? (node : Node) : Option Settings := do
  let [representation] ← node.fields? ["representation"] 0 | none
  match representation with
  | some node => return ⟨← Representation.ofNode? node⟩
  | none => return {}

end Settings

end PagedSearch
