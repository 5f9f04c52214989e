import PagedSearch.Proofs.Calendar.Display
import PagedSearch.Proofs.Collection.DocumentOrder
import PagedSearch.Proofs.Text.Order

/-!
# Displayed dates and instants in order

A date is ordered by year, month and day, an instant by its date, hour, minute and second,
and the display writes these numbers in the same order, each with a fixed width as long as
the year has four digits. So dates and instants are ordered as their displays are as texts
(`Date.compare_text`, `Instant.compare_text`); a leap second is second 60, behind 59 and
before the next minute, on both sides. A collection that keeps the displayed texts may
therefore select and order its documents by the texts alone
(`Value.display_keeps_order`).
-/
namespace PagedSearch

open Text

namespace Calendar

/-- A year that is written with four digits and without a sign. -/
def FourDigits (year : Int) : Prop :=
  0 ≤ year ∧ year ≤ 9999

instance (year : Int) : Decidable (FourDigits year) :=
  inferInstanceAs (Decidable (0 ≤ year ∧ year ≤ 9999))

variable {year other : Int}

theorem FourDigits.yearText_eq (four : FourDigits year) :
    yearText year = decimalPadded 4 year.toNat :=
  if_pos four

theorem FourDigits.length_yearText (four : FourDigits year) : (yearText year).length = 4 := by
  have ⟨lower, upper⟩ := four
  rw [FourDigits.yearText_eq four]
  exact length_decimalPadded (by decide) (by omega)

theorem FourDigits.compare_yearText (four : FourDigits year) (otherFour : FourDigits other) :
    compare (yearText year) (yearText other) = compare year other := by
  have ⟨lower, upper⟩ := four
  have ⟨otherLower, otherUpper⟩ := otherFour
  have first : year.toNat < 10 ^ 4 := by omega
  have second : other.toNat < 10 ^ 4 := by omega
  rw [FourDigits.yearText_eq four, FourDigits.yearText_eq otherFour,
    compare_decimalPadded (by decide) first second, ← compare_natCast,
    Int.toNat_of_nonneg lower, Int.toNat_of_nonneg otherLower]

/-- Two places are enough for a month, a day, an hour, a minute and a second. -/
theorem length_twoPlaces {n : Nat} (fits : n < 100) : (decimalPadded 2 n).length = 2 :=
  length_decimalPadded (by decide) fits

theorem compare_twoPlaces {m n : Nat} (first : m < 100) (second : n < 100) :
    compare (decimalPadded 2 m) (decimalPadded 2 n) = compare m n :=
  compare_decimalPadded (by decide) first second

end Calendar

open Calendar

namespace Date

variable {a b : Date}

theorem month_lt (d : Date) : d.month < 16 := by
  have := d.month_bounds
  omega

theorem day_lt (d : Date) : d.day < 32 :=
  Nat.lt_succ_of_le d.day_le_31

/-- Dates are ordered by year, then by month, then by day. -/
theorem compare_eq (a b : Date) :
    a.compare b =
      ((Ord.compare a.year b.year).then (Ord.compare a.month b.month)).then
        (Ord.compare a.day b.day) := by
  calc a.compare b
      = (Ord.compare (a.year * 16 + a.month) (b.year * 16 + b.month)).then
          (Ord.compare a.day b.day) := compare_places a.day_lt b.day_lt _ _
    _ = _ := congrArg (Ordering.then · _) (compare_places a.month_lt b.month_lt _ _)

theorem length_text (four : FourDigits a.year) : a.text.length = 10 := by
  have month := a.month_lt
  have day := a.day_lt
  simp only [text, List.length_append, List.length_cons, four.length_yearText,
    length_twoPlaces (show a.month < 100 by omega), length_twoPlaces (show a.day < 100 by omega)]

theorem compare_text (four : FourDigits a.year) (otherFour : FourDigits b.year) :
    Ord.compare a.text b.text = a.compare b := by
  have months : a.month < 100 ∧ b.month < 100 :=
    ⟨a.month_lt.trans (by decide), b.month_lt.trans (by decide)⟩
  have days : a.day < 100 ∧ b.day < 100 :=
    ⟨a.day_lt.trans (by decide), b.day_lt.trans (by decide)⟩
  have years : (yearText a.year).length = (yearText b.year).length :=
    four.length_yearText.trans otherFour.length_yearText.symm
  have fronts : (yearText a.year ++ '-' :: decimalPadded 2 a.month).length =
      (yearText b.year ++ '-' :: decimalPadded 2 b.month).length := by
    rw [List.length_append, List.length_append, List.length_cons, List.length_cons, years,
      length_twoPlaces months.1, length_twoPlaces months.2]
  rw [text, text, compare_append_mark fronts, compare_append_mark years,
    four.compare_yearText otherFour, compare_twoPlaces months.1 months.2,
    compare_twoPlaces days.1 days.2, compare_eq]

end Date

namespace Instant

variable {a b : Instant}

/-- Instants are ordered by date, then by hour, minute, second and fraction of a second. -/
theorem compare_eq (a b : Instant) :
    a.compare b =
      ((((a.date.compare b.date).then (Ord.compare a.hour b.hour)).then
        (Ord.compare a.minute b.minute)).then (Ord.compare a.second b.second)).then
          (Ord.compare a.nano b.nano) := by
  have seconds : a.second < 61 ∧ b.second < 61 :=
    ⟨Nat.lt_succ_of_le a.second_le, Nat.lt_succ_of_le b.second_le⟩
  calc a.compare b
      = (Ord.compare (((a.date.place * 24 + a.hour) * 60 + a.minute) * 61 + a.second)
          (((b.date.place * 24 + b.hour) * 60 + b.minute) * 61 + b.second)).then
            (Ord.compare a.nano b.nano) := compare_places a.nano_lt b.nano_lt _ _
    _ = ((Ord.compare ((a.date.place * 24 + a.hour) * 60 + a.minute)
          ((b.date.place * 24 + b.hour) * 60 + b.minute)).then
            (Ord.compare a.second b.second)).then (Ord.compare a.nano b.nano) :=
        congrArg (Ordering.then · _) (compare_places seconds.1 seconds.2 _ _)
    _ = (((Ord.compare (a.date.place * 24 + a.hour) (b.date.place * 24 + b.hour)).then
          (Ord.compare a.minute b.minute)).then (Ord.compare a.second b.second)).then
            (Ord.compare a.nano b.nano) :=
        congrArg (fun front => (Ordering.then front _).then _)
          (compare_places a.minute_lt b.minute_lt _ _)
    _ = _ := congrArg (fun front => ((Ordering.then front _).then _).then _)
        (compare_places a.hour_lt b.hour_lt _ _)

theorem length_clockText (t : Instant) : t.clockText.length = 8 := by
  have hour := t.hour_lt
  have minute := t.minute_lt
  have second := t.second_le
  simp only [clockText, List.length_append, List.length_cons,
    length_twoPlaces (show t.hour < 100 by omega),
    length_twoPlaces (show t.minute < 100 by omega),
    length_twoPlaces (show t.second < 100 by omega)]

theorem compare_clockText (a b : Instant) :
    Ord.compare a.clockText b.clockText =
      ((Ord.compare a.hour b.hour).then (Ord.compare a.minute b.minute)).then
        (Ord.compare a.second b.second) := by
  have hours : a.hour < 100 ∧ b.hour < 100 :=
    ⟨a.hour_lt.trans (by decide), b.hour_lt.trans (by decide)⟩
  have minutes : a.minute < 100 ∧ b.minute < 100 :=
    ⟨a.minute_lt.trans (by decide), b.minute_lt.trans (by decide)⟩
  have seconds : a.second < 100 ∧ b.second < 100 :=
    ⟨a.second_le.trans_lt (by decide), b.second_le.trans_lt (by decide)⟩
  have hourTexts : (decimalPadded 2 a.hour).length = (decimalPadded 2 b.hour).length := by
    rw [length_twoPlaces hours.1, length_twoPlaces hours.2]
  have fronts : (decimalPadded 2 a.hour ++ ':' :: decimalPadded 2 a.minute).length =
      (decimalPadded 2 b.hour ++ ':' :: decimalPadded 2 b.minute).length := by
    rw [List.length_append, List.length_append, List.length_cons, List.length_cons, hourTexts,
      length_twoPlaces minutes.1, length_twoPlaces minutes.2]
  rw [clockText, clockText, compare_append_mark fronts, compare_append_mark hourTexts,
    compare_twoPlaces hours.1 hours.2, compare_twoPlaces minutes.1 minutes.2,
    compare_twoPlaces seconds.1 seconds.2]

theorem compare_text (four : FourDigits a.date.year) (otherFour : FourDigits b.date.year)
    (sharp : a.nano = 0) (otherSharp : b.nano = 0) :
    Ord.compare a.text b.text = a.compare b := by
  have dates : a.date.text.length = b.date.text.length :=
    (Date.length_text four).trans (Date.length_text otherFour).symm
  have fronts : (a.date.text ++ 'T' :: a.clockText).length =
      (b.date.text ++ 'T' :: b.clockText).length := by
    rw [List.length_append, List.length_append, List.length_cons, List.length_cons, dates,
      length_clockText, length_clockText]
  rw [text, text, compare_append_mark fronts, compare_append_mark dates, List.compare_nil_nil,
    Date.compare_text four otherFour, compare_clockText, compare_eq, sharp, otherSharp,
    Nat.compare_eq_eq.mpr rfl]
  simp only [Ordering.then_assoc]

end Instant

namespace Value

/-- The year of a date or an instant. -/
def year? : Value → Option Int
  | date d => some d.year
  | instant t => some t.date.year
  | text _ | number _ => none

/-- The year of the value is written with four digits. -/
def FourDigitYear (value : Value) : Prop :=
  ∀ year ∈ value.year?, FourDigits year

section Displays

variable {type : FieldType} {raw other : String} {a b : Value}
  (calendar : type ∈ [.date, .instant]) (isRead : read raw type = .ok a)
  (otherRead : read other type = .ok b) (four : a.FourDigitYear) (otherFour : b.FourDigitYear)

include calendar isRead otherRead four otherFour

/-- Literals of one calendar type denote values that are ordered as their displays are. -/
theorem compare?_eq_compare_display : a.compare? b = some (compare a.display b.display) := by
  rcases date_or_instant_of_read calendar isRead with ⟨d, rfl, rfl⟩ | ⟨t, rfl, rfl, sharp⟩
  · rcases date_or_instant_of_read calendar otherRead with ⟨e, rfl, -⟩ | ⟨u, -, ⟨⟩, -⟩
    rw [display, display, compare_ofList, Date.compare_text (four _ rfl) (otherFour _ rfl)]
    rfl
  · rcases date_or_instant_of_read calendar otherRead with ⟨e, -, ⟨⟩⟩ | ⟨u, rfl, -, otherSharp⟩
    rw [display, display, compare_ofList,
      Instant.compare_text (four _ rfl) (otherFour _ rfl) sharp otherSharp]
    rfl

theorem order_display : order (text a.display) (text b.display) = order a b := by
  have ofType : a.type = type := type_of_read? (read_eq_ok_iff.mp isRead)
  have otherType : b.type = type := type_of_read? (read_eq_ok_iff.mp otherRead)
  have values := compare?_eq_order (ofType.trans otherType.symm)
  rw [compare?_eq_compare_display calendar isRead otherRead four otherFour] at values
  exact Option.some.inj values

end Displays

end Value

namespace Json

/-- The document keeps displays of a calendar type in the field: what it has there is nothing,
or the text of a value that some literal of the type denotes, in a year of four digits. -/
def KeepsDisplay (type : FieldType) (field : String) (document : Json) : Prop :=
  ∀ stored ∈ document.get? field, stored = .null ∨
    ∃ raw value, Value.read raw type = .ok value ∧ value.FourDigitYear ∧
      stored = .text value.display

/-- A kept display is read as its value, and as a text it is what it is. -/
theorem KeepsDisplay.reading? {type : FieldType} {field : String} {document : Json}
    (calendar : type ∈ [.date, .instant]) (keeps : document.KeepsDisplay type field) :
    (document.reading? field type = none ∧ document.reading? field .text = none) ∨
      ∃ raw value, Value.read raw type = .ok value ∧ value.FourDigitYear ∧
        document.reading? field type = some value ∧
        document.reading? field .text = some (.text value.display) := by
  unfold Json.reading?
  cases found : document.get? field with
  | none => exact .inl ⟨rfl, rfl⟩
  | some stored =>
    rcases keeps stored found with rfl | ⟨raw, value, isRead, four, rfl⟩
    · exact .inl ⟨rfl, rfl⟩
    · have back := Value.read_eq_ok_iff.mp (Value.read_display calendar isRead)
      exact .inr ⟨raw, value, isRead, four, back, rfl⟩

end Json

namespace SortKey

/-- The key with its type replaced by text, if it is the given type. -/
def overTexts (type : FieldType) (key : SortKey) : SortKey :=
  if key.type = some type then { key with type := some .text } else key

end SortKey

namespace Collection

variable {type : FieldType} (calendar : type ∈ [.date, .instant]) {x y : Json}

include calendar

/-- Displays are ordered as texts as their values are. -/
theorem orderByType_text {field : String} (keeps : x.KeepsDisplay type field)
    (otherKeeps : y.KeepsDisplay type field) :
    orderByType .text (x.get? field) (y.get? field) =
      orderByType type (x.get? field) (y.get? field) := by
  have first := keeps.reading? calendar
  have second := otherKeeps.reading? calendar
  unfold Json.reading? at first second
  unfold orderByType
  rcases first with ⟨missing, noText⟩ | ⟨_, a, isRead, four, held, heldText⟩
  · rcases second with ⟨otherMissing, noOther⟩ | ⟨_, _, -, -, otherHeld, otherText⟩
    · rw [missing, noText, otherMissing, noOther]
    · rw [missing, noText, otherHeld, otherText]
      rfl
  · rcases second with ⟨otherMissing, noOther⟩ | ⟨_, b, otherRead, otherFour, otherHeld, otherText⟩
    · rw [held, heldText, otherMissing, noOther]
      rfl
    · rw [held, heldText, otherHeld, otherText]
      dsimp only
      rw [Value.compare?_eq_compare_display calendar isRead otherRead four otherFour]
      rfl

theorem orderByKey_overTexts {key : SortKey}
    (keeps : key.type = some type → x.KeepsDisplay type key.field)
    (otherKeeps : key.type = some type → y.KeepsDisplay type key.field) :
    orderByKey (key.overTexts type) x y = orderByKey key x y := by
  unfold SortKey.overTexts
  split
  next typed =>
    simp only [orderByKey, typed, orderByType_text calendar (keeps typed) (otherKeeps typed)]
  next => rfl

theorem orderByKeys_overTexts {keys : List SortKey}
    (keeps : ∀ key ∈ keys, key.type = some type → x.KeepsDisplay type key.field)
    (otherKeeps : ∀ key ∈ keys, key.type = some type → y.KeepsDisplay type key.field) :
    orderByKeys (keys.map (SortKey.overTexts type)) x y = orderByKeys keys x y := by
  induction keys with
  | nil => rfl
  | cons key keys ih =>
    obtain ⟨head, tail⟩ := List.forall_mem_cons.mp keeps
    obtain ⟨otherHead, otherTail⟩ := List.forall_mem_cons.mp otherKeeps
    rw [List.map_cons, orderByKeys, orderByKeys, orderByKey_overTexts calendar head otherHead,
      ih tail otherTail]

end Collection

namespace Value

/-- Values that literals of one calendar type denote, in years of four digits, are ordered as
their displays are by code points. So a collection that keeps the displays in a field selects the
same documents by comparing them as texts with the display of a literal as it selects by
comparing their values, and sorts its documents the same way if texts stand for values in any
of its sort keys. -/
theorem display_keeps_order {type : FieldType} (calendar : type ∈ [.date, .instant]) :
    (∀ (raw other : String) (a b : Value), read raw type = .ok a → read other type = .ok b →
      a.FourDigitYear → b.FourDigitYear → a.compare? b = some (compare a.display b.display)) ∧
    (∀ (operator : Operator) (raw field : String) (expected : Value) (document : Json),
      operator.searchesText = false → read raw type = .ok expected → expected.FourDigitYear →
      document.KeepsDisplay type field →
      (operator.Passes field (text expected.display) document ↔
        operator.Passes field expected document)) ∧
    ∀ (keys : List SortKey) (documents : List Json),
      (∀ document ∈ documents, ∀ key ∈ keys, key.type = some type →
        document.KeepsDisplay type key.field) →
      Collection.sorted (Collection.orderByKeys (keys.map (SortKey.overTexts type))) documents =
        Collection.sorted (Collection.orderByKeys keys) documents := by
  refine ⟨fun raw other a b => compare?_eq_compare_display calendar, ?filtered, ?ordered⟩
  case filtered =>
    intro operator raw field expected document compares isRead four keeps
    have ofType : expected.type = type := type_of_read? (read_eq_ok_iff.mp isRead)
    rcases keeps.reading? calendar with ⟨missing, noText⟩ | ⟨_, a, storedRead, storedFour, held,
      heldText⟩
    · rw [← ofType] at missing
      exact iff_of_false (Operator.not_passes_of_unreadable noText)
        (Operator.not_passes_of_unreadable missing)
    · rw [← ofType] at held
      have textual : document.reading? field (text expected.display).type =
          some (text a.display) := heldText
      rw [Operator.passes_iff_admits compares textual, Operator.passes_iff_admits compares held,
        order_display calendar storedRead isRead storedFour four]
  case ordered =>
    intro keys documents keeps
    refine Collection.sorted_congr fun x inside y otherInside => ?_
    exact Collection.orderByKeys_overTexts calendar (keeps x inside) (keeps y otherInside)

/-- A leap second and the midnight behind it, in the two collections that keep them. -/
theorem display_keeps_order_leap_second :
    ∃ leap midnight, FieldType.instant ∈ [FieldType.date, .instant] ∧
      read "2016-12-31T23:59:60Z" .instant = .ok leap ∧
      read "2017-1-1T0:0:0Z" .instant = .ok midnight ∧
      leap.FourDigitYear ∧ midnight.FourDigitYear ∧
      leap.compare? midnight = some (compare "2016-12-31T23:59:60Z" "2017-01-01T00:00:00Z") ∧
      Operator.less.Passes "seen" (text "2017-01-01T00:00:00Z")
        (.object [("seen", .text "2016-12-31T23:59:60Z")]) ∧
      Collection.sorted (Collection.orderByKeys [⟨"seen", .ascending, some .text⟩])
          [.object [("seen", .text "2017-01-01T00:00:00Z")], .null,
            .object [("seen", .text "2016-12-31T23:59:60Z")]] =
        [.null, .object [("seen", .text "2016-12-31T23:59:60Z")],
          .object [("seen", .text "2017-01-01T00:00:00Z")]] := by
  have calendar : FieldType.instant ∈ [FieldType.date, .instant] := by decide
  have leapRead : read "2016-12-31T23:59:60Z" .instant =
      .ok (instant ⟨⟨2016, 12, 31, by decide, by decide, by decide, by decide⟩, 23, 59, 60, 0,
        by decide, by decide, by decide, by decide⟩) := by
    decide +kernel
  have midnightRead : read "2017-1-1T0:0:0Z" .instant =
      .ok (instant ⟨⟨2017, 1, 1, by decide, by decide, by decide, by decide⟩, 0, 0, 0, 0,
        by decide, by decide, by decide, by decide⟩) := by
    decide +kernel
  have leapYear : FourDigitYear (instant ⟨⟨2016, 12, 31, by decide, by decide, by decide,
      by decide⟩, 23, 59, 60, 0, by decide, by decide, by decide, by decide⟩) := by
    rintro year ⟨⟩
    decide
  have midnightYear : FourDigitYear (instant ⟨⟨2017, 1, 1, by decide, by decide, by decide,
      by decide⟩, 0, 0, 0, 0, by decide, by decide, by decide, by decide⟩) := by
    rintro year ⟨⟩
    decide
  have keepsLeap : Json.KeepsDisplay .instant "seen"
      (.object [("seen", .text "2016-12-31T23:59:60Z")]) := by
    rintro stored ⟨⟩
    exact .inr ⟨_, _, leapRead, leapYear, rfl⟩
  have keepsMidnight : Json.KeepsDisplay .instant "seen"
      (.object [("seen", .text "2017-01-01T00:00:00Z")]) := by
    rintro stored ⟨⟩
    exact .inr ⟨_, _, midnightRead, midnightYear, rfl⟩
  obtain ⟨ordered, filtered, sorted⟩ := display_keeps_order calendar
  refine ⟨_, _, calendar, leapRead, midnightRead, leapYear, midnightYear,
    ordered _ _ _ _ leapRead midnightRead leapYear midnightYear,
    (filtered .less _ "seen" _ _ rfl midnightRead midnightYear keepsLeap).mpr ?_,
    (sorted [⟨"seen", .ascending, some .instant⟩] _ ?_).trans ?_⟩
  · unfold Operator.Passes
    decide +kernel
  · intro document member key keyMember _
    simp only [List.mem_cons, List.not_mem_nil, or_false] at member keyMember
    subst keyMember
    rcases member with rfl | rfl | rfl
    · exact keepsMidnight
    · nofun
    · exact keepsLeap
  · rfl

/-- A sign stands before every digit, so a year of five digits is displayed before all others. -/
example : compare "+10000-01-01" "9999-12-31" = .lt := by decide +kernel

end Value

end PagedSearch
