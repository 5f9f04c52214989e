import PagedSearch.Calendar.Instant
import PagedSearch.Text.Digits

/-!
# Calendar layouts

Dates and instants are written with two places for every number but the year.
A year from 0 to 9999 has four places; any other has a sign and at least four.
-/
namespace PagedSearch

/-- The year part of a date. -/
def yearText (year : Int) : List Char :=
  if 0 ≤ year ∧ year ≤ 9999 then Text.decimalPadded 4 year.toNat
  else (if year < 0 then '-' else '+') :: Text.decimalPadded 4 year.natAbs

namespace Date

/-- `YYYY-MM-DD`. -/
def text (d : Date) : List Char :=
  yearText d.year ++ '-' :: Text.decimalPadded 2 d.month ++ '-' :: Text.decimalPadded 2 d.day

end Date

namespace Instant

/-- `HH:MM:SS`, a leap second as second 60. -/
def clockText (t : Instant) : List Char :=
  Text.decimalPadded 2 t.hour ++ ':' :: Text.decimalPadded 2 t.minute ++
    ':' :: Text.decimalPadded 2 t.second

/-- `YYYY-MM-DDTHH:MM:SSZ`, the layout shown to clients. Fractions of a second are not shown. -/
def text (t : Instant) : List Char :=
  t.date.text ++ 'T' :: t.clockText ++ ['Z']

/-- The fraction of a second in three, six or nine places, whichever are enough. -/
def fractionText (t : Instant) : List Char :=
  if t.nano = 0 then []
  else if t.nano % 1000000 = 0 then '.' :: Text.decimalPadded 3 (t.nano / 1000000)
  else if t.nano % 1000 = 0 then '.' :: Text.decimalPadded 6 (t.nano / 1000)
  else '.' :: Text.decimalPadded 9 t.nano

/-- The JSON layout: as `text`, with the fraction of a second. -/
def json (t : Instant) : List Char :=
  t.date.text ++ 'T' :: t.clockText ++ t.fractionText ++ ['Z']

/-- The layout of a bound SQL parameter: as `json`, with a numeric offset. -/
def parameter (t : Instant) : List Char :=
  t.date.text ++ 'T' :: t.clockText ++ t.fractionText ++ "+00:00".toList

/-- The layout of an SQL literal: microseconds, and a space before time and offset. -/
def sql (t : Instant) : List Char :=
  t.date.text ++ ' ' :: t.clockText ++ '.' :: Text.decimalPadded 6 (t.nano / 1000) ++
    " +00:00".toList

end Instant

end PagedSearch
