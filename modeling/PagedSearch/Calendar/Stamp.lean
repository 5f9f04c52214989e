import PagedSearch.Calendar.Literal

/-!
# Calendar values in JSON texts

Dates and instants in JSON are read more loosely than client literals. Blanks
may also stand before a mark between two numbers and at the end. The time of
an instant may begin with `T`, `t` or a space and may have a fraction of a
second, and its offset from universal time is `Z`, `UTC`, or a sign with hours
and minutes.
-/
namespace PagedSearch

namespace Calendar

/-- A date at the front of a text, with blanks before its marks. -/
def takeLooseDate? (s : List Char) : Option (Date × List Char) := do
  let (year, s) ← takeYear? s
  let (month, s) ← takeNumber? 2 (← takeMark? '-' (Text.skipBlanks s))
  let (day, s) ← takeNumber? 2 (← takeMark? '-' (Text.skipBlanks s))
  return (← Date.of? year month day, s)

/-- Hour, minute and second at the front of a text, with blanks before their marks. -/
def takeLooseClock? (s : List Char) : Option ((Nat × Nat × Nat) × List Char) := do
  let (hour, s) ← takeNumber? 2 s
  let (minute, s) ← takeNumber? 2 (← takeMark? ':' (Text.skipBlanks s))
  let (second, s) ← takeNumber? 2 (← takeMark? ':' (Text.skipBlanks s))
  return ((hour, minute, second), s)

/-- Nanoseconds behind a point, or zero without one. Digits past the ninth are dropped. -/
def takeNano? : List Char → Option (Nat × List Char)
  | '.' :: rest =>
    let (digits, rest) := Text.takeDigits rest
    let kept := digits.take 9
    if digits = [] then none
    else some (Text.digitsValue kept * Nat.pow 10 (9 - kept.length), rest)
  | rest => some (0, rest)

/-- Two digits at the front of a text. -/
def takeTwoDigits? : List Char → Option (Nat × List Char)
  | a :: b :: rest =>
    if a.isDigit && b.isDigit then some (Text.digitsValue [a, b], rest) else none
  | _ => none

/-- A sign at the front of a text, true for minus. The minus sign U+2212 counts too. -/
def takeOffsetSign? : List Char → Option (Bool × List Char)
  | [] => none
  | c :: rest =>
    if c = '+' then some (false, rest)
    else if c = '-' ∨ c = '\u2212' then some (true, rest)
    else none

/-- A signed offset in minutes: two digits of hours, below a day, and two of minutes, with
colons and blanks between them. -/
def takeSignedOffset? (s : List Char) : Option (Int × List Char) := do
  let (negative, s) ← takeOffsetSign? s
  let (hours, s) ← takeTwoDigits? s
  let (minutes, s) ← takeTwoDigits? (s.dropWhile fun c => c = ':' || Text.isBlank c)
  if hours < 24 ∧ minutes < 60 then
    let size : Int := hours * 60 + minutes
    some (if negative then -size else size, s)
  else none

/-- The offset from universal time in minutes. -/
def takeOffset? (s : List Char) : Option (Int × List Char) :=
  match s with
  | 'Z' :: rest | 'z' :: rest => some (0, rest)
  | a :: b :: c :: rest =>
    if [a, b, c].map Char.toUpper = ['U', 'T', 'C'] then some (0, rest) else takeSignedOffset? s
  | _ => takeSignedOffset? s

/-- The mark between date and time. -/
def takeTimeMark? : List Char → Option (List Char)
  | 'T' :: rest | 't' :: rest | ' ' :: rest => some rest
  | _ => none

end Calendar

/-- The date in a JSON text. -/
def Date.ofJsonText? (s : List Char) : Option Date := do
  let (date, s) ← Calendar.takeLooseDate? s
  if Text.skipBlanks s = [] then some date else none

/-- The instant in a JSON text, brought to universal time. -/
def Instant.ofJsonText? (s : List Char) : Option Instant := do
  let (date, s) ← Calendar.takeLooseDate? s
  let ((hour, minute, second), s) ← Calendar.takeLooseClock? (← Calendar.takeTimeMark? s)
  let (nano, s) ← Calendar.takeNano? s
  let (offset, s) ← Calendar.takeOffset? (Text.skipBlanks s)
  let shown ← Instant.of? date hour minute second nano
  if Text.skipBlanks s = [] then shown.atOffset? offset else none

end PagedSearch
