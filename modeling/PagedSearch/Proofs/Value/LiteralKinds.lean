import PagedSearch.Proofs.Value.Decimals
import PagedSearch.Proofs.Value.Scalars

/-!
# One kind of literal for each text

No text is a literal of two types: a decimal literal has no sign behind its first digits, and
a date ends where an instant goes on with its time of day. So a guess does not depend on the
order in which instants and dates are tried, and it is what a field of the guessed type
reads (`Value.literals_disjoint`).
-/
namespace PagedSearch

open Text Calendar

/-- Where a date ends an instant goes on. -/
theorem Calendar.SpellsDate.not_spellsInstant {text : List Char} {d : Date}
    (spelled : SpellsDate text d) (t : Instant) : ¬ SpellsInstant text t := by
  rintro ⟨onDate, -, -, -, -⟩
  have whole := spelled.take?_append (show EndsDigits [] from nofun)
  rw [List.append_nil, onDate.take?_append (endsDigits_cons (by decide) _)] at whole
  cases whole

namespace Value

section Kinds

variable {raw : String} {value : Value}

theorem read?_calendar_of_number (decimal : read? raw .number = some value) {type : FieldType}
    (calendar : type ∈ [.date, .instant]) : read? raw type = none := by
  obtain ⟨l, -, spelled, -⟩ := read?_decimal_eq_some_iff.mp decimal
  exact read?_calendar_of_spells spelled calendar

theorem read?_instant_of_date (onDay : read? raw .date = some value) :
    read? raw .instant = none := by
  obtain ⟨d, onDate, -⟩ := read?_date_eq_some_iff.mp onDay
  exact read?_instant_eq_none_iff.mpr fun ⟨t, atInstant⟩ => onDate.not_spellsInstant t atInstant

/-- A text is a literal of one type at most, apart from being a text. -/
theorem kind_unique {type other : FieldType} {otherValue : Value} (literal : type ≠ .text)
    (otherLiteral : other ≠ .text) (ok : read? raw type = some value)
    (otherOk : read? raw other = some otherValue) : type = other := by
  have clash : ∀ {kind : FieldType} {v : Value}, read? raw kind = some v →
      ¬ read? raw kind = none := fun ok missing => nomatch ok.symm.trans missing
  cases type with
  | text => exact absurd rfl literal
  | number =>
    cases other with
    | text => exact absurd rfl otherLiteral
    | number => rfl
    | date => exact absurd (read?_calendar_of_number ok (by decide)) (clash otherOk)
    | instant => exact absurd (read?_calendar_of_number ok (by decide)) (clash otherOk)
  | date =>
    cases other with
    | text => exact absurd rfl otherLiteral
    | number => exact absurd (read?_calendar_of_number otherOk (by decide)) (clash ok)
    | date => rfl
    | instant => exact absurd (read?_instant_of_date ok) (clash otherOk)
  | instant =>
    cases other with
    | text => exact absurd rfl otherLiteral
    | number => exact absurd (read?_calendar_of_number otherOk (by decide)) (clash ok)
    | date => exact absurd (read?_instant_of_date otherOk) (clash ok)
    | instant => rfl

end Kinds

/-- The first of some types that reads a text is the only one. -/
theorem findSome?_read?_eq_some_iff {raw : String} {kinds : List FieldType}
    (literals : FieldType.text ∉ kinds) {value : Value} :
    kinds.findSome? (read? raw) = some value ↔ ∃ type ∈ kinds, read? raw type = some value := by
  constructor
  · exact List.exists_of_findSome?_eq_some
  · rintro ⟨type, member, ok⟩
    cases found : kinds.findSome? (read? raw) with
    | none =>
      rw [List.findSome?_eq_none_iff.mp found type member] at ok
      cases ok
    | some first =>
      obtain ⟨other, otherMember, otherOk⟩ := List.exists_of_findSome?_eq_some found
      have same := kind_unique (ne_of_mem_of_not_mem member literals)
        (ne_of_mem_of_not_mem otherMember literals) ok otherOk
      rw [← otherOk, ← same, ok]

/-- The order in which the types are tried does not matter. -/
theorem guess_eq_findSome? (raw : String) {kinds : List FieldType}
    (order : kinds.Perm [.instant, .date]) :
    guess raw = (kinds.findSome? (read? raw)).getD (text raw) := by
  have tried : guess raw = (([.instant, .date] : List FieldType).findSome? (read? raw)).getD
      (text raw) := by
    simp only [guess, List.findSome?_cons, List.findSome?_nil]
    cases read? raw .instant <;> cases read? raw .date <;> rfl
  have literals : FieldType.text ∉ kinds := fun member =>
    absurd (order.mem_iff.mp member) (by decide)
  have same : ([.instant, .date] : List FieldType).findSome? (read? raw) =
      kinds.findSome? (read? raw) := by
    refine Option.ext fun value => ?_
    rw [findSome?_read?_eq_some_iff literals, findSome?_read?_eq_some_iff (by decide)]
    simp only [order.mem_iff]
  rw [tried, same]

theorem guess_of_read? {raw : String} {value : Value} {type : FieldType}
    (calendar : type ∈ [.instant, .date]) (ok : read? raw type = some value) :
    guess raw = value := by
  have found := (findSome?_read?_eq_some_iff (by decide)).mpr ⟨type, calendar, ok⟩
  rw [guess_eq_findSome? raw (.refl _), found, Option.getD_some]

theorem guess_of_unread {raw : String}
    (unread : ∀ type ∈ [.instant, .date], read? raw type = none) : guess raw = text raw := by
  rw [guess_eq_findSome? raw (.refl _), List.findSome?_eq_none_iff.mpr unread, Option.getD_none]

/-- A client text is a literal of one type at most. The guess at its type is what the one of the
two calendar types that reads it makes of it, in whatever order they are tried, and the text as
it is if neither does; and a field of the guessed type reads the guessed value. -/
theorem literals_disjoint (raw : String) :
    (∀ type ∈ [.number, .date, .instant], ∀ other ∈ [.number, .date, .instant],
      (∃ value, read raw type = .ok value) → (∃ value, read raw other = .ok value) →
        type = other) ∧
    (∀ type ∈ [.instant, .date], ∀ value, read raw type = .ok value → guess raw = value) ∧
    (∀ kinds : List FieldType, kinds.Perm [.instant, .date] →
      guess raw = (kinds.findSome? fun type => (read raw type).toOption).getD (text raw)) ∧
    read raw (guess raw).type = .ok (guess raw) ∧
    ((∀ type ∈ [.instant, .date], ∃ unreadable, read raw type = .error unreadable) →
      guess raw = text raw) := by
  simp only [read_eq_ok_iff, read_eq_error_iff, toOption_read]
  refine ⟨?disjoint, fun type calendar value => guess_of_read? calendar,
    fun kinds => guess_eq_findSome? raw, ?agrees, ?verbatim⟩
  case disjoint =>
    rintro type member other otherMember ⟨value, ok⟩ ⟨otherValue, otherOk⟩
    exact kind_unique (ne_of_mem_of_not_mem member (by decide))
      (ne_of_mem_of_not_mem otherMember (by decide)) ok otherOk
  case agrees =>
    cases found : ([.instant, .date] : List FieldType).findSome? (read? raw) with
    | none =>
      rw [guess_of_unread (List.findSome?_eq_none_iff.mp found)]
      rfl
    | some value =>
      obtain ⟨type, calendar, ok⟩ := List.exists_of_findSome?_eq_some found
      rw [guess_of_read? calendar ok, type_of_read? ok, ok]
  case verbatim =>
    intro errors
    refine guess_of_unread fun type calendar => ?_
    obtain ⟨-, missing, -⟩ := errors type calendar
    exact missing

/-- A day that exists in leap years only is a date or a text, and an instant is no date. -/
theorem literals_disjoint_leap_day :
    (∃ d, read " 2024-2-29" .date = .ok (.date d) ∧ guess " 2024-2-29" = .date d) ∧
    guess "2023-2-29" = .text "2023-2-29" ∧
    (∃ t, read "2024-2-29T8:5:0Z" .instant = .ok (.instant t)) ∧
    ¬ ∃ value, read "2024-2-29T8:5:0Z" .date = .ok value := by
  obtain ⟨d, taken⟩ : ∃ d, Date.read? (trim " 2024-2-29".toList) = some d :=
    Option.isSome_iff_exists.mp (by decide +kernel)
  have onDate : read " 2024-2-29" .date = .ok (.date d) :=
    read_eq_ok_iff.mpr (congrArg (Option.map date) taken)
  obtain ⟨t, taken⟩ : ∃ t, Instant.read? (trim "2024-2-29T8:5:0Z".toList) = some t :=
    Option.isSome_iff_exists.mp (by decide +kernel)
  have atInstant : read "2024-2-29T8:5:0Z" .instant = .ok (.instant t) :=
    read_eq_ok_iff.mpr (congrArg (Option.map instant) taken)
  have unread : ∀ type ∈ [.instant, .date], ∃ unreadable,
      read "2023-2-29" type = .error unreadable := fun type calendar =>
    ⟨_, read_eq_error_iff.mpr ⟨by revert type; decide +kernel, rfl⟩⟩
  obtain ⟨-, accepted, -⟩ := literals_disjoint " 2024-2-29"
  obtain ⟨-, -, -, -, verbatim⟩ := literals_disjoint "2023-2-29"
  obtain ⟨disjoint, -⟩ := literals_disjoint "2024-2-29T8:5:0Z"
  exact ⟨⟨d, onDate, accepted .date (by decide) _ onDate⟩, verbatim unread, ⟨_, atInstant⟩,
    fun ok => nomatch disjoint .instant (by decide) .date (by decide) ⟨_, atInstant⟩ ok⟩

end Value

end PagedSearch
