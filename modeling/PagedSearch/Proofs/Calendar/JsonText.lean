import PagedSearch.Calendar.Layout
import PagedSearch.Calendar.Stamp
import PagedSearch.Proofs.Calendar.Display

/-!
# Calendar values in JSON texts read back

A date or an instant is read back from the text that JSON gives it
(`Date.ofJsonText?_text`, `Instant.ofJsonText?_json`): every year of the calendar,
those with a sign and those below 1000 too, leap seconds at any minute, and
fractions of a second in each of their three widths.
-/
namespace PagedSearch

open Text

namespace Calendar

theorem takeNumber?_decimalPadded {width n : Nat} (wide : 0 < width) (fits : n < 10 ^ width)
    (rest : List Char) : takeNumber? width (decimalPadded width n ++ rest) = some (n, rest) := by
  have all : ∀ c ∈ decimalPadded width n, c.isDigit = true :=
    fun _ member => isDigit_of_mem_decimalPadded member
  have filled := decimalPadded_ne_nil width n
  have taken := takeDigitsUpTo_digits all rest
  rw [length_decimalPadded wide fits] at taken
  simp only [takeNumber?, skipBlanks_digits all filled, taken, if_neg filled,
    digitsValue_decimalPadded]

/-- The two places of a month, a day, an hour, a minute or a second. -/
theorem takeNumber?_two {n : Nat} (fits : n < 100) (rest : List Char) :
    takeNumber? 2 (decimalPadded 2 n ++ rest) = some (n, rest) :=
  takeNumber?_decimalPadded (by decide) fits rest

theorem takeMark?_skipBlanks {mark : Char} (solid : isBlank mark = false) (rest : List Char) :
    takeMark? mark (skipBlanks (mark :: rest)) = some rest := by
  rw [skipBlanks_cons solid, takeMark?_cons]

theorem takeLooseDate?_text (d : Date) (rest : List Char) :
    takeLooseDate? (d.text ++ rest) = some (d, rest) := by
  have month : d.month < 100 := by have := d.month_bounds; omega
  have day : d.day < 100 := by have := d.day_le_31; omega
  have dash := fun tail => takeMark?_skipBlanks (show isBlank '-' = false by decide) tail
  simp only [takeLooseDate?, Date.text, List.append_assoc, List.cons_append,
    (spellsYear_yearText d.year).take?_append
      (endsDigits_cons (show '-'.isDigit = false by decide) _),
    Option.bind_eq_bind, Option.bind_some, dash, takeNumber?_two month, takeNumber?_two day,
    Date.of?_self, Option.pure_def]

theorem takeLooseClock?_clockText (t : Instant) (rest : List Char) :
    takeLooseClock? (t.clockText ++ rest) = some ((t.hour, t.minute, t.second), rest) := by
  have hour : t.hour < 100 := by have := t.hour_lt; omega
  have minute : t.minute < 100 := by have := t.minute_lt; omega
  have second : t.second < 100 := by have := t.second_le; omega
  have colon := fun tail => takeMark?_skipBlanks (show isBlank ':' = false by decide) tail
  simp only [takeLooseClock?, Instant.clockText, List.append_assoc, List.cons_append,
    takeNumber?_two hour, Option.bind_eq_bind, Option.bind_some, colon,
    takeNumber?_two minute, takeNumber?_two second, Option.pure_def]

/-- A fraction in three, six or nine places has all digits that are not zero. -/
theorem takeNano?_digits {width n nano : Nat} (wide : 0 < width) (narrow : width ≤ 9)
    (fits : n < 10 ^ width) {rest : List Char} (ends : EndsDigits rest)
    (scaled : n * Nat.pow 10 (9 - width) = nano) :
    takeNano? ('.' :: (decimalPadded width n ++ rest)) = some (nano, rest) := by
  have all : ∀ c ∈ decimalPadded width n, c.isDigit = true :=
    fun _ member => isDigit_of_mem_decimalPadded member
  have length := length_decimalPadded wide fits
  have kept : (decimalPadded width n).take 9 = decimalPadded width n :=
    List.take_of_length_le (by omega)
  simp only [takeNano?, takeDigits_digits all ends, if_neg (decimalPadded_ne_nil width n), kept,
    digitsValue_decimalPadded, length, scaled]

theorem takeNano?_fractionText (t : Instant) (rest : List Char) :
    takeNano? (t.fractionText ++ 'Z' :: rest) = some (t.nano, 'Z' :: rest) := by
  have below := t.nano_lt
  have ends := endsDigits_cons (show 'Z'.isDigit = false by decide) rest
  unfold Instant.fractionText
  split
  next whole => rw [whole]; rfl
  next =>
    split
    next thousandths =>
      have scaled : t.nano / 1000000 * 1000000 = t.nano := by omega
      exact takeNano?_digits (by decide) (by decide) (by omega) ends scaled
    next =>
      split
      next millionths =>
        have scaled : t.nano / 1000 * 1000 = t.nano := by omega
        exact takeNano?_digits (by decide) (by decide) (by omega) ends scaled
      next =>
        exact takeNano?_digits (by decide) (by decide) (by omega) ends (Nat.mul_one t.nano)

end Calendar

/-- Universal time has no offset to take off. -/
theorem Instant.atOffset?_zero (t : Instant) : t.atOffset? 0 = some t := by
  have hour := t.hour_lt
  have minute := t.minute_lt
  have early : ¬ (t.hour * 60 + t.minute - 0 : Int) < 0 := by omega
  have late : (t.hour * 60 + t.minute - 0 : Int) < 1440 := by omega
  have minutes : ((t.hour * 60 + t.minute - 0 : Int) % 1440).toNat = t.hour * 60 + t.minute := by
    omega
  have hours : (t.hour * 60 + t.minute) / 60 = t.hour := by omega
  have rest : (t.hour * 60 + t.minute) % 60 = t.minute := by omega
  simp only [atOffset?, if_neg early, if_pos late, minutes, hours, rest, Option.bind_eq_bind,
    Option.bind_some, Instant.of?_self]

theorem Date.ofJsonText?_text (d : Date) : Date.ofJsonText? d.text = some d := by
  have read := Calendar.takeLooseDate?_text d []
  rw [List.append_nil] at read
  simp only [ofJsonText?, read, Option.bind_eq_bind, Option.bind_some]
  rfl

theorem Instant.ofJsonText?_json (t : Instant) : Instant.ofJsonText? t.json = some t := by
  have zone := fun tail => skipBlanks_cons (show isBlank 'Z' = false by decide) tail
  simp only [ofJsonText?, json, List.append_assoc, List.cons_append,
    Calendar.takeLooseDate?_text, Calendar.takeTimeMark?, Calendar.takeLooseClock?_clockText,
    Calendar.takeNano?_fractionText, zone, Calendar.takeOffset?, Option.bind_eq_bind,
    Option.bind_some, Instant.of?_self, Instant.atOffset?_zero]
  rfl

end PagedSearch
