import PagedSearch.Calendar.Date

/-!
# Instants

A date with a time of day in coordinated universal time. Second 60 is a leap
second. It may follow any minute, and stands after second 59 and before the
next minute.
-/
namespace PagedSearch

/-- A point in time down to the nanosecond. -/
structure Instant where
  date : Date
  hour : Nat
  minute : Nat
  second : Nat
  nano : Nat
  hour_lt : hour < 24
  minute_lt : minute < 60
  second_le : second ≤ 60
  nano_lt : nano < 1000000000
  deriving DecidableEq, Repr

namespace Instant

/-- The instant with the given time of day, if a clock shows it. -/
def of? (date : Date) (hour minute second nano : Nat) : Option Instant :=
  if h : hour < 24 ∧ minute < 60 ∧ second ≤ 60 ∧ nano < 1000000000 then
    some ⟨date, hour, minute, second, nano, h.1, h.2.1, h.2.2.1, h.2.2.2⟩
  else none

/-- A number that grows with the instant. -/
def place (t : Instant) : Int :=
  (((t.date.place * 24 + t.hour) * 60 + t.minute) * 61 + t.second) * 1000000000 + t.nano

/-- Order in time. -/
def compare (a b : Instant) : Ordering :=
  Ord.compare a.place b.place

/-- The instant whose clock, `offset` minutes ahead of universal time, shows the time of
`t`. Offsets are below one day, so at most the neighbouring date is reached. -/
def atOffset? (t : Instant) (offset : Int) : Option Instant := do
  let minutes : Int := t.hour * 60 + t.minute - offset
  let date ← if minutes < 0 then t.date.previous? else if minutes < 1440 then some t.date
    else t.date.next?
  let minutes := (minutes % 1440).toNat
  of? date (minutes / 60) (minutes % 60) t.second t.nano

theorem of?_self (t : Instant) : of? t.date t.hour t.minute t.second t.nano = some t := by
  simp [of?, t.hour_lt, t.minute_lt, t.second_le, t.nano_lt]

end Instant

end PagedSearch
