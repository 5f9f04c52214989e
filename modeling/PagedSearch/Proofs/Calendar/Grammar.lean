import PagedSearch.Calendar.Literal
import PagedSearch.Proofs.Criteria.Comparisons
import PagedSearch.Proofs.Text.Digits

/-!
# Grammar of calendar literals

Which texts spell a date or an instant, as relations that say nothing of how a text is
read: blanks stand before numbers only, the numbers have the digits that the layout
allows, and a `Date` or an `Instant` with just these numbers exists. The readers decide
these relations (`Date.read?_eq_some_iff`, `Instant.read?_eq_some_iff`), so a client
text is a literal of its type exactly if its trimmed form is spelled so
(`Value.read_calendar`).
-/
namespace PagedSearch

open Text

namespace Calendar

/-- A number of one to `width` digits, with blanks before it. -/
inductive SpellsNumber (width : Nat) : List Char → Nat → Prop where
  | digits {blanks digits : List Char} (blank : ∀ c ∈ blanks, isBlank c = true)
      (digit : ∀ c ∈ digits, c.isDigit = true) (filled : digits ≠ [])
      (short : digits.length ≤ width) :
      SpellsNumber width (blanks ++ digits) (digitsValue digits)

/-- A year, with blanks before it: up to four digits, or a sign and any number of digits. -/
inductive SpellsYear : List Char → Int → Prop where
  | unsigned {text : List Char} {year : Nat} (four : SpellsNumber 4 text year) :
      SpellsYear text year
  | plus {blanks digits : List Char} (blank : ∀ c ∈ blanks, isBlank c = true)
      (digit : ∀ c ∈ digits, c.isDigit = true) (filled : digits ≠ []) :
      SpellsYear (blanks ++ '+' :: digits) (digitsValue digits)
  | minus {blanks digits : List Char} (blank : ∀ c ∈ blanks, isBlank c = true)
      (digit : ∀ c ∈ digits, c.isDigit = true) (filled : digits ≠ []) :
      SpellsYear (blanks ++ '-' :: digits) (-(digitsValue digits : Int))

/-- `Y-M-D` with the numbers of a date. -/
inductive SpellsDate : List Char → Date → Prop where
  | parts {year month day : List Char} {d : Date} (inYear : SpellsYear year d.year)
      (inMonth : SpellsNumber 2 month d.month) (onDay : SpellsNumber 2 day d.day) :
      SpellsDate (year ++ '-' :: (month ++ '-' :: day)) d

/-- `Y-M-DTh:m:sZ` with the numbers of an instant, which has no fraction of a second. -/
inductive SpellsInstant : List Char → Instant → Prop where
  | parts {date hour minute second : List Char} {t : Instant} (onDate : SpellsDate date t.date)
      (atHour : SpellsNumber 2 hour t.hour) (atMinute : SpellsNumber 2 minute t.minute)
      (atSecond : SpellsNumber 2 second t.second) (sharp : t.nano = 0) :
      SpellsInstant (date ++ 'T' :: (hour ++ ':' :: (minute ++ ':' :: (second ++ ['Z'])))) t

theorem SpellsInstant.nano_eq {text : List Char} {t : Instant} (spelled : SpellsInstant text t) :
    t.nano = 0 := by
  cases spelled with
  | parts _ _ _ _ sharp => exact sharp

/-! Numbers are read as they are spelled, up to the first character that is no digit. -/

theorem takeDigitsUpTo_of_short {width : Nat} {digits rest : List Char}
    (digit : ∀ c ∈ digits, c.isDigit = true) (short : digits.length ≤ width)
    (ends : EndsDigits rest) : takeDigitsUpTo width (digits ++ rest) = (digits, rest) := by
  have stop : (rest.take (width - digits.length)).takeWhile Char.isDigit = [] := by
    cases rest with
    | nil => simp
    | cons c rest => cases width - digits.length <;> simp [ends c rfl]
  have taken : ((digits ++ rest).take width).takeWhile Char.isDigit = digits := by
    rw [List.take_append, List.take_of_length_le short, List.takeWhile_append_of_pos digit,
      stop, List.append_nil]
  simp only [takeDigitsUpTo, taken, List.drop_left]

theorem takeDigitsUpTo_split (width : Nat) (s : List Char) :
    (takeDigitsUpTo width s).1 ++ (takeDigitsUpTo width s).2 = s ∧
      (∀ c ∈ (takeDigitsUpTo width s).1, c.isDigit = true) ∧
      (takeDigitsUpTo width s).1.length ≤ width := by
  have front : (s.take width).takeWhile Char.isDigit <+: s :=
    (List.takeWhile_prefix _).trans (List.take_prefix _ _)
  refine ⟨List.prefix_iff_eq_append.mp front, fun c member => List.mem_takeWhile_imp member, ?_⟩
  calc ((s.take width).takeWhile Char.isDigit).length
      ≤ (s.take width).length := (List.takeWhile_prefix _).length_le
    _ ≤ width := List.length_take_le _ _

theorem SpellsNumber.take?_append {width n : Nat} {text rest : List Char}
    (spelled : SpellsNumber width text n) (ends : EndsDigits rest) :
    takeNumber? width (text ++ rest) = some (n, rest) := by
  obtain ⟨blank, digit, filled, short⟩ := spelled
  rw [takeNumber?, List.append_assoc, skipBlanks_append blank, skipBlanks_digits digit filled,
    takeDigitsUpTo_of_short digit short ends]
  exact if_neg filled

theorem spellsNumber_of_take? {width n : Nat} {s rest : List Char}
    (read : takeNumber? width s = some (n, rest)) :
    ∃ text, s = text ++ rest ∧ SpellsNumber width text n := by
  obtain ⟨blanks, blank, start⟩ := exists_blanks s
  obtain ⟨whole, digit, short⟩ := takeDigitsUpTo_split width (skipBlanks s)
  simp only [takeNumber?] at read
  split at read
  next => cases read
  next filled =>
    cases read
    exact ⟨blanks ++ _, by rw [List.append_assoc, whole, ← start],
      .digits blank digit filled short⟩

theorem takeLongNumber?_append {digits rest : List Char}
    (digit : ∀ c ∈ digits, c.isDigit = true) (filled : digits ≠ []) (ends : EndsDigits rest) :
    takeLongNumber? (digits ++ rest) = some (digitsValue digits, rest) := by
  simp only [takeLongNumber?, takeDigits_digits digit ends, if_neg filled]

theorem exists_digits_of_takeLongNumber? {n : Nat} {s rest : List Char}
    (read : takeLongNumber? s = some (n, rest)) :
    ∃ digits, s = digits ++ rest ∧ (∀ c ∈ digits, c.isDigit = true) ∧ digits ≠ [] ∧
      digitsValue digits = n := by
  simp only [takeLongNumber?] at read
  split at read
  next => cases read
  next filled =>
    cases read
    exact ⟨_, (takeDigits_append s).symm, isDigit_of_mem_takeDigits s, filled, rfl⟩

theorem takeYear?_blanks {blanks : List Char} (blank : ∀ c ∈ blanks, isBlank c = true)
    (rest : List Char) : takeYear? (blanks ++ rest) = takeYear? rest := by
  rw [takeYear?, takeYear?, skipBlanks_append blank]

theorem takeNumber?_blanks {blanks : List Char} (blank : ∀ c ∈ blanks, isBlank c = true)
    (width : Nat) (rest : List Char) :
    takeNumber? width (blanks ++ rest) = takeNumber? width rest := by
  rw [takeNumber?, takeNumber?, skipBlanks_append blank]

/-- A year that begins with a digit has no sign. -/
theorem takeYear?_digits {digits : List Char} (all : ∀ c ∈ digits, c.isDigit = true)
    (filled : digits ≠ []) (rest : List Char) :
    takeYear? (digits ++ rest) =
      (takeNumber? 4 (digits ++ rest)).map fun (year, rest) => ((year : Int), rest) := by
  rw [takeYear?, skipBlanks_digits all filled]
  cases digits with
  | nil => exact absurd rfl filled
  | cons c digits =>
    have digit := all c (by simp)
    split
    next sign =>
      cases sign
      exact absurd digit (by decide)
    next sign =>
      cases sign
      exact absurd digit (by decide)
    next => rfl

theorem SpellsYear.take?_append {year : Int} {text rest : List Char}
    (spelled : SpellsYear text year) (ends : EndsDigits rest) :
    takeYear? (text ++ rest) = some (year, rest) := by
  cases spelled with
  | unsigned four =>
    have number := four.take?_append ends
    obtain ⟨blank, digit, filled, short⟩ := four
    rw [List.append_assoc, takeNumber?_blanks blank] at number
    rw [List.append_assoc, takeYear?_blanks blank, takeYear?_digits digit filled, number]
    rfl
  | plus blank digit filled =>
    simp only [List.append_assoc, List.cons_append, takeYear?, skipBlanks_append blank,
      skipBlanks_cons (show isBlank '+' = false by decide),
      takeLongNumber?_append digit filled ends, Option.map_some]
  | minus blank digit filled =>
    simp only [List.append_assoc, List.cons_append, takeYear?, skipBlanks_append blank,
      skipBlanks_cons (show isBlank '-' = false by decide),
      takeLongNumber?_append digit filled ends, Option.map_some]

theorem spellsYear_of_take? {year : Int} {s rest : List Char}
    (read : takeYear? s = some (year, rest)) :
    ∃ text, s = text ++ rest ∧ SpellsYear text year := by
  obtain ⟨blanks, blank, start⟩ := exists_blanks s
  unfold takeYear? at read
  split at read
  next signed minus =>
    obtain ⟨⟨n, after⟩, number, same⟩ := Option.map_eq_some_iff.mp read
    cases same
    obtain ⟨digits, rfl, digit, filled, rfl⟩ := exists_digits_of_takeLongNumber? number
    exact ⟨blanks ++ '-' :: digits, by rw [start, minus]; simp, .minus blank digit filled⟩
  next signed plus =>
    obtain ⟨⟨n, after⟩, number, same⟩ := Option.map_eq_some_iff.mp read
    cases same
    obtain ⟨digits, rfl, digit, filled, rfl⟩ := exists_digits_of_takeLongNumber? number
    exact ⟨blanks ++ '+' :: digits, by rw [start, plus]; simp, .plus blank digit filled⟩
  next =>
    obtain ⟨⟨n, after⟩, number, same⟩ := Option.map_eq_some_iff.mp read
    cases same
    rw [← takeNumber?_blanks blank, ← start] at number
    obtain ⟨text, rfl, four⟩ := spellsNumber_of_take? number
    exact ⟨text, rfl, .unsigned four⟩

theorem takeMark?_cons (mark : Char) (rest : List Char) :
    takeMark? mark (mark :: rest) = some rest :=
  if_pos rfl

theorem takeMark?_eq_some_iff {mark : Char} {s rest : List Char} :
    takeMark? mark s = some rest ↔ s = mark :: rest := by
  constructor
  · intro read
    cases s with
    | nil => cases read
    | cons c s =>
      simp only [takeMark?] at read
      split at read
      next same => rw [same, Option.some.inj read]
      next => cases read
  · rintro rfl
    exact takeMark?_cons mark rest

/-! The readers of whole literals go through the parts of the layout one by one. -/

theorem SpellsDate.take?_append {d : Date} {text rest : List Char}
    (spelled : SpellsDate text d) (ends : EndsDigits rest) :
    takeDate? (text ++ rest) = some (d, rest) := by
  obtain ⟨inYear, inMonth, onDay⟩ := spelled
  have dash := fun tail => endsDigits_cons (show '-'.isDigit = false by decide) tail
  simp only [List.append_assoc, List.cons_append, takeDate?, inYear.take?_append (dash _),
    takeMark?_cons, inMonth.take?_append (dash _), onDay.take?_append ends,
    Option.bind_eq_bind, Option.bind_some, Date.of?_self, Option.pure_def]

theorem spellsDate_of_take? {d : Date} {s rest : List Char}
    (read : takeDate? s = some (d, rest)) :
    ∃ text, s = text ++ rest ∧ SpellsDate text d := by
  simp only [takeDate?, Option.bind_eq_bind, Option.bind_eq_some_iff, Prod.exists,
    takeMark?_eq_some_iff, Option.pure_def, Option.some.injEq, Prod.mk.injEq] at read
  obtain ⟨year, _, readYear, _, rfl, month, _, readMonth, _, rfl, day, _, readDay, date, valid,
    rfl, rfl⟩ := read
  obtain ⟨yearText, rfl, inYear⟩ := spellsYear_of_take? readYear
  obtain ⟨monthText, rfl, inMonth⟩ := spellsNumber_of_take? readMonth
  obtain ⟨dayText, rfl, onDay⟩ := spellsNumber_of_take? readDay
  obtain ⟨rfl, rfl, rfl⟩ := Date.of?_eq_some valid
  exact ⟨_, by simp, .parts inYear inMonth onDay⟩

theorem takeClock?_append {hourText minuteText secondText : List Char} {hour minute second : Nat}
    (atHour : SpellsNumber 2 hourText hour) (atMinute : SpellsNumber 2 minuteText minute)
    (atSecond : SpellsNumber 2 secondText second) {rest : List Char} (ends : EndsDigits rest) :
    takeClock? (hourText ++ ':' :: (minuteText ++ ':' :: (secondText ++ rest))) =
      some ((hour, minute, second), rest) := by
  have colon := fun tail => endsDigits_cons (show ':'.isDigit = false by decide) tail
  simp only [takeClock?, atHour.take?_append (colon _), takeMark?_cons,
    atMinute.take?_append (colon _), atSecond.take?_append ends, Option.bind_eq_bind,
    Option.bind_some, Option.pure_def]

theorem spells_of_takeClock? {hour minute second : Nat} {s rest : List Char}
    (read : takeClock? s = some ((hour, minute, second), rest)) :
    ∃ hourText minuteText secondText,
      s = hourText ++ ':' :: (minuteText ++ ':' :: (secondText ++ rest)) ∧
      SpellsNumber 2 hourText hour ∧ SpellsNumber 2 minuteText minute ∧
      SpellsNumber 2 secondText second := by
  simp only [takeClock?, Option.bind_eq_bind, Option.bind_eq_some_iff, Prod.exists,
    takeMark?_eq_some_iff, Option.pure_def, Option.some.injEq, Prod.mk.injEq] at read
  obtain ⟨_, _, readHour, _, rfl, _, _, readMinute, _, rfl, _, _, readSecond, ⟨rfl, rfl, rfl⟩,
    rfl⟩ := read
  obtain ⟨hourText, rfl, atHour⟩ := spellsNumber_of_take? readHour
  obtain ⟨minuteText, rfl, atMinute⟩ := spellsNumber_of_take? readMinute
  obtain ⟨secondText, rfl, atSecond⟩ := spellsNumber_of_take? readSecond
  exact ⟨hourText, minuteText, secondText, rfl, atHour, atMinute, atSecond⟩

end Calendar

open Calendar

theorem Date.read?_eq_some_iff {s : List Char} {d : Date} :
    Date.read? s = some d ↔ SpellsDate s d := by
  constructor
  · intro read
    obtain ⟨⟨date, rest⟩, taken, ended⟩ := Option.bind_eq_some_iff.mp read
    split at ended
    next whole =>
      cases whole
      cases ended
      obtain ⟨text, rfl, spelled⟩ := spellsDate_of_take? taken
      rwa [List.append_nil]
    next => cases ended
  · intro spelled
    have taken := spelled.take?_append (show EndsDigits [] from nofun)
    rw [List.append_nil] at taken
    rw [Date.read?, taken]
    rfl

theorem Instant.of?_eq_some {date : Date} {hour minute second nano : Nat} {t : Instant}
    (h : Instant.of? date hour minute second nano = some t) :
    t.date = date ∧ t.hour = hour ∧ t.minute = minute ∧ t.second = second ∧ t.nano = nano := by
  unfold Instant.of? at h
  split at h
  next => cases h; exact ⟨rfl, rfl, rfl, rfl, rfl⟩
  next => cases h

theorem Instant.read?_eq_some_iff {s : List Char} {t : Instant} :
    Instant.read? s = some t ↔ SpellsInstant s t := by
  constructor
  · intro read
    simp only [Instant.read?, Option.bind_eq_bind, Option.bind_eq_some_iff, Prod.exists,
      takeMark?_eq_some_iff] at read
    obtain ⟨date, _, readDate, _, rfl, hour, minute, second, _, readClock, _, rfl, valid⟩ := read
    split at valid
    next =>
      obtain ⟨rfl, rfl, rfl, rfl, sharp⟩ := Instant.of?_eq_some valid
      obtain ⟨dateText, rfl, onDate⟩ := spellsDate_of_take? readDate
      obtain ⟨_, _, _, rfl, atHour, atMinute, atSecond⟩ := spells_of_takeClock? readClock
      exact .parts onDate atHour atMinute atSecond sharp
    next => cases valid
  · rintro ⟨onDate, atHour, atMinute, atSecond, sharp⟩
    have mark := endsDigits_cons (show 'T'.isDigit = false by decide)
    have zone := endsDigits_cons (show 'Z'.isDigit = false by decide)
    have valid := Instant.of?_self t
    rw [sharp] at valid
    simp only [Instant.read?, onDate.take?_append (mark _), takeMark?_cons,
      takeClock?_append atHour atMinute atSecond (zone []), Option.bind_eq_bind,
      Option.bind_some, valid]

namespace Value

theorem read_eq_error_iff {raw : String} {type : FieldType} {unreadable : Unreadable} :
    read raw type = .error unreadable ↔ read? raw type = none ∧ unreadable = ⟨raw, type⟩ := by
  unfold read
  split
  next found => simp [found]
  next missing => simp [missing, eq_comm]

theorem read?_date_eq_some_iff {raw : String} {value : Value} :
    read? raw .date = some value ↔ ∃ d, SpellsDate (trim raw.toList) d ∧ value = .date d := by
  rw [read?, Option.map_eq_some_iff]
  exact exists_congr fun d => and_congr Date.read?_eq_some_iff eq_comm

theorem read?_instant_eq_some_iff {raw : String} {value : Value} :
    read? raw .instant = some value ↔
      ∃ t, SpellsInstant (trim raw.toList) t ∧ value = .instant t := by
  rw [read?, Option.map_eq_some_iff]
  exact exists_congr fun t => and_congr Instant.read?_eq_some_iff eq_comm

theorem read?_date_eq_none_iff {raw : String} :
    read? raw .date = none ↔ ¬ ∃ d, SpellsDate (trim raw.toList) d := by
  rw [read?, Option.map_eq_none_iff, Option.eq_none_iff_forall_ne_some, not_exists]
  simp only [ne_eq, Date.read?_eq_some_iff]

theorem read?_instant_eq_none_iff {raw : String} :
    read? raw .instant = none ↔ ¬ ∃ t, SpellsInstant (trim raw.toList) t := by
  rw [read?, Option.map_eq_none_iff, Option.eq_none_iff_forall_ne_some, not_exists]
  simp only [ne_eq, Instant.read?_eq_some_iff]

/-- A client text is a date literal exactly if its trimmed form spells a date of the calendar,
and an instant literal exactly if it spells an instant without a fraction of a second; its value
is then that date or that instant. Every other text is an error that shows the whole text,
with the blanks around it. -/
theorem read_calendar (raw : String) :
    (∀ value, read raw .date = .ok value ↔
      ∃ d, SpellsDate (trim raw.toList) d ∧ value = .date d) ∧
    (∀ unreadable, read raw .date = .error unreadable ↔
      (¬ ∃ d, SpellsDate (trim raw.toList) d) ∧ unreadable = ⟨raw, .date⟩) ∧
    (∀ value, read raw .instant = .ok value ↔
      ∃ t, SpellsInstant (trim raw.toList) t ∧ value = .instant t) ∧
    (∀ unreadable, read raw .instant = .error unreadable ↔
      (¬ ∃ t, SpellsInstant (trim raw.toList) t) ∧ unreadable = ⟨raw, .instant⟩) := by
  refine ⟨fun value => ?_, fun unreadable => ?_, fun value => ?_, fun unreadable => ?_⟩
  · rw [read_eq_ok_iff, read?_date_eq_some_iff]
  · rw [read_eq_error_iff, read?_date_eq_none_iff]
  · rw [read_eq_ok_iff, read?_instant_eq_some_iff]
  · rw [read_eq_error_iff, read?_instant_eq_none_iff]

/-- A year of five digits needs its sign, and blanks may stand before numbers only. -/
example : (read? " +12000- 2-29 " .date).isSome = true ∧ read? "12000-02-29" .date = none ∧
    read? "2000 -02-29" .date = none := by
  decide +kernel

end Value

end PagedSearch
