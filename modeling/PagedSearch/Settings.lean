import PagedSearch.Text.Blank
import PagedSearch.Text.Letters

/-!
# Settings

A deployment chooses once how predicates are represented: as conditions for
SQL databases or as criteria for stores of documents. The choice may come from
an environment variable. An unset variable means the default, and so does one
whose bytes are no text.
-/
namespace PagedSearch

/-- How predicates are represented. -/
inductive Representation where
  | condition | criteria
  deriving DecidableEq, Repr

/-- A word that names no representation. -/
structure UnknownRepresentation where
  raw : String
  deriving DecidableEq, Repr

namespace UnknownRepresentation

def message (u : UnknownRepresentation) : String :=
  "Unknown predicate representation '" ++ u.raw ++ "', expected 'condition' or 'criteria'"

end UnknownRepresentation

namespace Representation

def word : Representation → String
  | condition => "condition"
  | criteria => "criteria"

/-- The representation of an exact word. -/
def ofWord? (word : String) : Option Representation :=
  [condition, criteria].find? (·.word == word)

/-- The representation that a word names, up to case and surrounding blanks. -/
def named (raw : String) : Except UnknownRepresentation Representation :=
  let matching := [condition, criteria].find? fun representation =>
    Text.sameWord representation.word.toList (Text.trim raw.toList)
  match matching with
  | some representation => .ok representation
  | none => .error ⟨raw⟩

end Representation

/-- The settings of a deployment. -/
structure Settings where
  representation : Representation := .condition
  deriving DecidableEq, Repr

namespace Settings

/-- The settings of an environment variable's content, none when it is unset. -/
def ofEnvironment (content : Option ByteArray) : Except UnknownRepresentation Settings :=
  match content.bind String.fromUTF8? with
  | some raw => do return ⟨← Representation.named raw⟩
  | none => .ok {}

end Settings

end PagedSearch
