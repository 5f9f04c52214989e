import PagedSearch.Proofs.Calendar.Grammar

/-!
# Displayed dates and instants read back

The text in which a date or an instant is displayed is a literal of it
(`Date.spells_text`, `Instant.spells_text`): a year below 1000 has its four places, a
year before 0 or beyond 9999 its sign, and a leap second is second 60. So what a client
literal denotes is denoted by its display too, and two literals denote one value exactly
if they are displayed alike (`Value.display_read_back`).
-/
namespace PagedSearch

open Text Calendar

namespace Calendar

theorem spellsNumber_decimalPadded {width n : Nat} (wide : 0 < width) (fits : n < 10 ^ width) :
    SpellsNumber width (decimalPadded width n) n := by
  have spelled := @SpellsNumber.digits width [] (decimalPadded width n) nofun
    (fun _ member => isDigit_of_mem_decimalPadded member) (decimalPadded_ne_nil width n)
    (length_decimalPadded wide fits).le
  rwa [List.nil_append, digitsValue_decimalPadded] at spelled

theorem spellsYear_yearText (year : Int) : SpellsYear (yearText year) year := by
  unfold yearText
  split
  next four =>
    have spelled := SpellsYear.unsigned
      (spellsNumber_decimalPadded (show 0 < 4 by decide) (show year.toNat < 10 ^ 4 by omega))
    rwa [Int.toNat_of_nonneg four.1] at spelled
  next =>
    have digit : ∀ c ∈ decimalPadded 4 year.natAbs, c.isDigit = true :=
      fun _ member => isDigit_of_mem_decimalPadded member
    have filled := decimalPadded_ne_nil 4 year.natAbs
    by_cases negative : year < 0
    · have spelled := @SpellsYear.minus [] _ nofun digit filled
      rw [digitsValue_decimalPadded, show -(year.natAbs : Int) = year by omega] at spelled
      rwa [if_pos negative]
    · have spelled := @SpellsYear.plus [] _ nofun digit filled
      rw [digitsValue_decimalPadded, show (year.natAbs : Int) = year by omega] at spelled
      rwa [if_neg negative]

end Calendar

namespace Date

variable {d : Date}

theorem spells_text (d : Date) : SpellsDate d.text d := by
  have month : d.month < 10 ^ 2 := by have := d.month_bounds; omega
  have day : d.day < 10 ^ 2 := by have := d.day_le_31; omega
  have spelled := SpellsDate.parts (spellsYear_yearText d.year)
    (spellsNumber_decimalPadded (by decide) month) (spellsNumber_decimalPadded (by decide) day)
  simpa only [text, List.append_assoc, List.cons_append] using spelled

theorem mem_text {c : Char} (member : c ∈ d.text) : c.isDigit = true ∨ c = '-' ∨ c = '+' := by
  simp only [text, yearText, List.append_assoc, List.cons_append, List.mem_append,
    List.mem_cons] at member
  rcases member with year | dash | month | dash | day
  · split at year
    next => exact .inl (isDigit_of_mem_decimalPadded year)
    next =>
      rcases List.mem_cons.mp year with rfl | digit
      · exact .inr (by split <;> simp)
      · exact .inl (isDigit_of_mem_decimalPadded digit)
  · exact .inr (.inl dash)
  · exact .inl (isDigit_of_mem_decimalPadded month)
  · exact .inr (.inl dash)
  · exact .inl (isDigit_of_mem_decimalPadded day)

theorem solid_text {c : Char} (member : c ∈ d.text) : isBlank c = false := by
  rcases mem_text member with digit | rfl | rfl
  · exact not_isBlank_of_isDigit digit
  · decide
  · decide

end Date

namespace Instant

variable {t : Instant}

theorem spells_text (sharp : t.nano = 0) : SpellsInstant t.text t := by
  have hour : t.hour < 10 ^ 2 := by have := t.hour_lt; omega
  have minute : t.minute < 10 ^ 2 := by have := t.minute_lt; omega
  have second : t.second < 10 ^ 2 := by have := t.second_le; omega
  have spelled := SpellsInstant.parts t.date.spells_text
    (spellsNumber_decimalPadded (by decide) hour) (spellsNumber_decimalPadded (by decide) minute)
    (spellsNumber_decimalPadded (by decide) second) sharp
  simpa only [text, clockText, List.append_assoc, List.cons_append] using spelled

theorem solid_text {c : Char} (member : c ∈ t.text) : isBlank c = false := by
  have digits : ∀ {n : Nat}, c ∈ decimalPadded 2 n → isBlank c = false :=
    fun member => not_isBlank_of_isDigit (isDigit_of_mem_decimalPadded member)
  simp only [text, clockText, List.append_assoc, List.cons_append, List.mem_append,
    List.mem_cons, List.not_mem_nil, or_false] at member
  rcases member with date | rfl | hour | rfl | minute | rfl | second | rfl
  · exact Date.solid_text date
  · decide
  · exact digits hour
  · decide
  · exact digits minute
  · decide
  · exact digits second
  · decide

/-- No date is displayed as an instant is: the mark before the time is missing. -/
theorem text_ne_text (t : Instant) (d : Date) : d.text ≠ t.text := by
  intro same
  have mark : 'T' ∈ d.text := by simp [same, text]
  rcases Date.mem_text mark with digit | sign | sign
  · exact absurd digit (by decide)
  · exact absurd sign (by decide)
  · exact absurd sign (by decide)

end Instant

namespace Value

variable {raw : String} {value : Value}

/-- A literal of a calendar type denotes a date or an instant without a fraction of a second. -/
theorem date_or_instant_of_read {type : FieldType} (calendar : type ∈ [.date, .instant])
    (isRead : read raw type = .ok value) :
    (∃ d, value = date d ∧ type = .date) ∨
      ∃ t : Instant, value = instant t ∧ type = .instant ∧ t.nano = 0 := by
  rw [read_eq_ok_iff] at isRead
  simp only [List.mem_cons, List.not_mem_nil, or_false] at calendar
  rcases calendar with rfl | rfl
  · obtain ⟨d, -, rfl⟩ := read?_date_eq_some_iff.mp isRead
    exact .inl ⟨d, rfl, rfl⟩
  · obtain ⟨t, spelled, rfl⟩ := read?_instant_eq_some_iff.mp isRead
    exact .inr ⟨t, rfl, rfl, spelled.nano_eq⟩

theorem read_display_date (d : Date) : read (display (date d)) .date = .ok (date d) := by
  rw [read_eq_ok_iff, read?_date_eq_some_iff, display, String.toList_ofList,
    trim_eq_self fun _ => Date.solid_text]
  exact ⟨d, d.spells_text, rfl⟩

theorem read_display_instant {t : Instant} (sharp : t.nano = 0) :
    read (display (instant t)) .instant = .ok (instant t) := by
  rw [read_eq_ok_iff, read?_instant_eq_some_iff, display, String.toList_ofList,
    trim_eq_self fun _ => Instant.solid_text]
  exact ⟨t, Instant.spells_text sharp, rfl⟩

theorem read_display {type : FieldType} (calendar : type ∈ [.date, .instant])
    (isRead : read raw type = .ok value) : read value.display type = .ok value := by
  rcases date_or_instant_of_read calendar isRead with ⟨d, rfl, rfl⟩ | ⟨t, rfl, rfl, sharp⟩
  · exact read_display_date d
  · exact read_display_instant sharp

/-- Whatever a date or an instant literal denotes is denoted by its display as a literal of the
same type. So two such literals, of one type or of both, denote the same value exactly if they
are displayed alike. -/
theorem display_read_back :
    (∀ (raw : String) (type : FieldType) (value : Value), type ∈ [.date, .instant] →
      read raw type = .ok value → read value.display type = .ok value) ∧
    ∀ (raw other : String) (type otherType : FieldType) (value otherValue : Value),
      type ∈ [.date, .instant] → otherType ∈ [.date, .instant] →
      read raw type = .ok value → read other otherType = .ok otherValue →
      (value = otherValue ↔ value.display = otherValue.display) := by
  refine ⟨fun _ _ _ => read_display, fun raw other type otherType value otherValue calendar
    otherCalendar isRead otherRead => ⟨fun same => same ▸ rfl, fun alike => ?_⟩⟩
  have first := read_display calendar isRead
  have second := read_display otherCalendar otherRead
  rw [alike] at first
  rcases date_or_instant_of_read calendar isRead with ⟨d, rfl, rfl⟩ | ⟨t, rfl, rfl, -⟩
  · rcases date_or_instant_of_read otherCalendar otherRead with ⟨e, rfl, rfl⟩ | ⟨t, rfl, rfl, -⟩
    · exact Except.ok.inj (first.symm.trans second)
    · exact absurd (String.ofList_injective alike) (t.text_ne_text d)
  · rcases date_or_instant_of_read otherCalendar otherRead with ⟨d, rfl, rfl⟩ | ⟨u, rfl, rfl, -⟩
    · exact absurd (String.ofList_injective alike).symm (t.text_ne_text d)
    · exact Except.ok.inj (first.symm.trans second)

/-- A leap second at the end of a minute within a day, in a year before 0 that is written with
two digits and blanks inside. -/
theorem display_read_back_leap_second :
    ∃ value, FieldType.instant ∈ [FieldType.date, .instant] ∧
      read " -44-3- 5T7:08:60Z" .instant = .ok value ∧
      value.display = "-0044-03-05T07:08:60Z" ∧ read value.display .instant = .ok value := by
  have calendar : FieldType.instant ∈ [FieldType.date, .instant] := by decide
  have isRead : read " -44-3- 5T7:08:60Z" .instant =
      .ok (instant ⟨⟨-44, 3, 5, by decide, by decide, by decide, by decide⟩, 7, 8, 60, 0,
        by decide, by decide, by decide, by decide⟩) := by
    decide +kernel
  exact ⟨_, calendar, isRead, by decide +kernel, display_read_back.1 _ _ _ calendar isRead⟩

end Value

end PagedSearch
