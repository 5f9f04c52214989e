import PagedSearch.FieldType
import PagedSearch.Number.Literal
import PagedSearch.Number.Layout
import PagedSearch.Calendar.Literal
import PagedSearch.Calendar.Layout

/-!
# Typed values

A filter value after it was read as the type of its field. Text is taken as it
is; for every other type the blanks around the literal are ignored and the
rest must be a literal of the type. Values of one type are ordered, and values
of two types are not comparable.
-/
namespace PagedSearch

/-- A value of one of the field types. -/
inductive Value where
  | text (s : String)
  | number (x : Binary64)
  | date (d : Date)
  | instant (t : Instant)
  deriving DecidableEq, Repr

/-- A text that is not a literal of the expected type. -/
structure Unreadable where
  raw : String
  expected : FieldType
  deriving DecidableEq, Repr

namespace Unreadable

def message (u : Unreadable) : String :=
  "'" ++ u.raw ++ "' is not a valid " ++ u.expected.word ++ " value"

end Unreadable

namespace Value

/-- The type of a value. -/
def type : Value → FieldType
  | text _ => .text
  | number _ => .number
  | date _ => .date
  | instant _ => .instant

/-- Order of two values of one type: texts by code points, numbers by size, dates and
instants by time. -/
def compare? : Value → Value → Option Ordering
  | text a, text b => some (compare a b)
  | number a, number b => some (a.compare b)
  | date a, date b => some (a.compare b)
  | instant a, instant b => some (a.compare b)
  | _, _ => none

/-- The value as clients see it. -/
def display : Value → String
  | text s => s
  | number x => String.ofList x.plain
  | date d => String.ofList d.text
  | instant t => String.ofList t.text

/-- The value that a text denotes in a field of the given type. -/
def read? (raw : String) (type : FieldType) : Option Value :=
  let literal := Text.trim raw.toList
  match type with
  | .text => some (text raw)
  | .number => (Binary64.read? literal).map number
  | .date => (Date.read? literal).map date
  | .instant => (Instant.read? literal).map instant

/-- As `read?`, with the whole text in the error. -/
def read (raw : String) (type : FieldType) : Except Unreadable Value :=
  match read? raw type with
  | some value => .ok value
  | none => .error ⟨raw, type⟩

/-- The value of the most specific type that a text can be read as: an instant, else a
date, else the text itself. -/
def guess (raw : String) : Value :=
  (read? raw .instant <|> read? raw .date).getD (text raw)

theorem type_of_read? {raw : String} {type : FieldType} {value : Value}
    (h : read? raw type = some value) : value.type = type := by
  cases type <;> simp only [read?, Option.map_eq_some_iff, Option.some.injEq] at h
  · subst h; rfl
  all_goals obtain ⟨_, _, rfl⟩ := h; rfl

theorem compare?_isSome_iff {a b : Value} : (compare? a b).isSome = true ↔ a.type = b.type := by
  cases a <;> cases b <;> simp [compare?, type]

end Value

end PagedSearch
