import PagedSearch.Calendar.Instant
import PagedSearch.Text.Blank
import PagedSearch.Text.Digits

/-!
# Calendar literals

A date literal is `Y-M-D` and an instant literal is such a date with `Th:m:sZ`
behind it. Blanks may stand before a number and nowhere else. A year without a
sign has one to four digits and one with a sign has any number of them; every
other number has one or two. Nothing may follow.

The readers of the single parts give back the text behind what they read.
-/
namespace PagedSearch

namespace Calendar

/-- A number of one to `width` digits, blanks before it left out. -/
def takeNumber? (width : Nat) (s : List Char) : Option (Nat × List Char) :=
  let (digits, rest) := Text.takeDigitsUpTo width (Text.skipBlanks s)
  if digits = [] then none else some (Text.digitsValue digits, rest)

/-- A number of any length at the very front. -/
def takeLongNumber? (s : List Char) : Option (Nat × List Char) :=
  let (digits, rest) := Text.takeDigits s
  if digits = [] then none else some (Text.digitsValue digits, rest)

/-- A year, blanks before it left out. -/
def takeYear? (s : List Char) : Option (Int × List Char) :=
  match Text.skipBlanks s with
  | '-' :: rest => (takeLongNumber? rest).map fun (year, rest) => (-(year : Int), rest)
  | '+' :: rest => (takeLongNumber? rest).map fun (year, rest) => ((year : Int), rest)
  | rest => (takeNumber? 4 rest).map fun (year, rest) => ((year : Int), rest)

/-- One fixed character. -/
def takeMark? (mark : Char) : List Char → Option (List Char)
  | [] => none
  | c :: rest => if c = mark then some rest else none

/-- The date at the front of a text. -/
def takeDate? (s : List Char) : Option (Date × List Char) := do
  let (year, s) ← takeYear? s
  let (month, s) ← takeNumber? 2 (← takeMark? '-' s)
  let (day, s) ← takeNumber? 2 (← takeMark? '-' s)
  return (← Date.of? year month day, s)

/-- Hour, minute and second at the front of a text. -/
def takeClock? (s : List Char) : Option ((Nat × Nat × Nat) × List Char) := do
  let (hour, s) ← takeNumber? 2 s
  let (minute, s) ← takeNumber? 2 (← takeMark? ':' s)
  let (second, s) ← takeNumber? 2 (← takeMark? ':' s)
  return ((hour, minute, second), s)

end Calendar

/-- The date that a whole text spells. -/
def Date.read? (s : List Char) : Option Date := do
  match ← Calendar.takeDate? s with
  | (date, []) => some date
  | _ => none

/-- The instant that a whole text spells. -/
def Instant.read? (s : List Char) : Option Instant := do
  let (date, s) ← Calendar.takeDate? s
  let ((hour, minute, second), s) ← Calendar.takeClock? (← Calendar.takeMark? 'T' s)
  match ← Calendar.takeMark? 'Z' s with
  | [] => Instant.of? date hour minute second 0
  | _ => none

end PagedSearch
