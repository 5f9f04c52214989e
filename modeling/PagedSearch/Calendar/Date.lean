/-!
# Calendar dates

Dates of the proleptic Gregorian calendar: year 0 exists and the leap year rule
runs back without end. Years reach from -262143 to 262142.
-/
namespace PagedSearch

namespace Calendar

def firstYear : Int := -262143

def lastYear : Int := 262142

/-- Every fourth year is a leap year, but of the full centuries only every fourth. -/
def isLeapYear (year : Int) : Bool :=
  year % 4 = 0 && (year % 100 ≠ 0 || year % 400 = 0)

/-- The number of days of a month, zero for a month that does not exist. -/
def daysInMonth (year : Int) (month : Nat) : Nat :=
  match month with
  | 1 | 3 | 5 | 7 | 8 | 10 | 12 => 31
  | 4 | 6 | 9 | 11 => 30
  | 2 => if isLeapYear year then 29 else 28
  | _ => 0

end Calendar

/-- A day of the calendar. -/
structure Date where
  year : Int
  month : Nat
  day : Nat
  year_ge : Calendar.firstYear ≤ year
  year_le : year ≤ Calendar.lastYear
  day_pos : 1 ≤ day
  day_le : day ≤ Calendar.daysInMonth year month
  deriving DecidableEq, Repr

namespace Date

/-- The day with the given numbers, if the calendar has it. -/
def of? (year : Int) (month day : Nat) : Option Date :=
  if h : Calendar.firstYear ≤ year ∧ year ≤ Calendar.lastYear ∧ 1 ≤ day ∧
      day ≤ Calendar.daysInMonth year month then
    some ⟨year, month, day, h.1, h.2.1, h.2.2.1, h.2.2.2⟩
  else none

/-- The following day, none after the last day of the last year. -/
def next? (d : Date) : Option Date :=
  if d.day < Calendar.daysInMonth d.year d.month then of? d.year d.month (d.day + 1)
  else if d.month < 12 then of? d.year (d.month + 1) 1
  else of? (d.year + 1) 1 1

/-- The day before, none before the first day of the first year. -/
def previous? (d : Date) : Option Date :=
  if 1 < d.day then of? d.year d.month (d.day - 1)
  else if 1 < d.month then of? d.year (d.month - 1) (Calendar.daysInMonth d.year (d.month - 1))
  else of? (d.year - 1) 12 31

/-- A number that grows with the date, year before month before day. -/
def place (d : Date) : Int :=
  (d.year * 16 + d.month) * 32 + d.day

/-- Order in time. -/
def compare (a b : Date) : Ordering :=
  Ord.compare a.place b.place

theorem of?_self (d : Date) : of? d.year d.month d.day = some d := by
  simp [of?, d.year_ge, d.year_le, d.day_pos, d.day_le]

theorem of?_eq_some {year : Int} {month day : Nat} {d : Date} (h : of? year month day = some d) :
    d.year = year ∧ d.month = month ∧ d.day = day := by
  unfold of? at h
  split at h
  · injection h with h; subst h; exact ⟨rfl, rfl, rfl⟩
  · cases h

theorem month_bounds (d : Date) : 1 ≤ d.month ∧ d.month ≤ 12 := by
  have positive := Nat.le_trans d.day_pos d.day_le
  unfold Calendar.daysInMonth at positive
  split at positive <;> omega

theorem day_le_31 (d : Date) : d.day ≤ 31 := by
  have bound := d.day_le
  unfold Calendar.daysInMonth at bound
  split at bound <;> (try split at bound) <;> omega

end Date

end PagedSearch
