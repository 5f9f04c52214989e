import PagedSearch.Proofs.Calendar.Grammar
import PagedSearch.Proofs.Number.ReadBack
import PagedSearch.Value.Stored

/-!
# Stored scalars and client texts

A document holds truth values, numbers and texts, and a client writes texts only. Reading a
stored scalar as a type comes to the same as reading its text (`Value.ofStored?_eq_read`):
a stored number is converted at once and a client's number is read from its digits, and both
are the nearest double. No text of a number is a date or an instant, as a decimal literal
has no sign behind its first digits (`DecimalLiteral.Spells.not_spellsDate`).
-/
namespace PagedSearch

open Text Calendar

namespace DecimalLiteral

/-- A sign behind digits ends a literal too early. -/
theorem read?_digits_minus {sign digits : List Char} {negative : Bool}
    (inSign : SpellsSign sign negative) (digit : ∀ c ∈ digits, c.isDigit = true)
    (filled : digits ≠ []) (rest : List Char) :
    read? (sign ++ (digits ++ '-' :: rest)) = none := by
  have ends : EndsDigits ('-' :: rest) := endsDigits_cons (by decide) rest
  simp [read?, inSign.takeSign_append (unsigned_of_digits digit filled),
    takeDigits_digits digit ends, takeFraction, filled, readExponent?]

/-- No literal begins with a blank. -/
theorem read?_blank {c : Char} (blank : isBlank c = true) (rest : List Char) :
    read? (c :: rest) = none := by
  have solid : ∀ d, isBlank d = false → c ≠ d := by
    rintro d solid rfl
    simp [blank] at solid
  have noDigit : c.isDigit = false := by
    by_contra digit
    exact solid c (not_isBlank_of_isDigit (by simpa using digit)) rfl
  have other : c ∉ ['.', '-', '+'] := by
    simp [solid '.' (by decide), solid '-' (by decide), solid '+' (by decide)]
  exact read?_head .none noDigit other rest

/-- What begins as a date does is no decimal literal. -/
theorem read?_year_minus {year : List Char} {y : Int} (inYear : SpellsYear year y)
    (rest : List Char) : read? (year ++ '-' :: rest) = none := by
  have signed : ∀ {blanks sign digits : List Char} {negative : Bool},
      (∀ c ∈ blanks, isBlank c = true) → SpellsSign sign negative →
      (∀ c ∈ digits, c.isDigit = true) → digits ≠ [] →
      read? (blanks ++ (sign ++ (digits ++ '-' :: rest))) = none := by
    intro blanks sign digits negative blank inSign digit filled
    cases blanks with
    | nil => exact read?_digits_minus inSign digit filled rest
    | cons c blanks => exact read?_blank (blank c List.mem_cons_self) _
  cases inYear with
  | unsigned four =>
    obtain ⟨blank, digit, filled, -⟩ := four
    rw [List.append_assoc]
    exact signed blank .none digit filled
  | plus blank digit filled =>
    rw [List.append_assoc]
    exact signed blank .plus digit filled
  | minus blank digit filled =>
    rw [List.append_assoc]
    exact signed blank .minus digit filled

variable {text : List Char} {l : DecimalLiteral}

/-- No literal has a blank in it. -/
theorem Spells.not_isBlank (spelled : Spells text l) : ∀ c ∈ text, isBlank c = false := by
  have solid : ∀ {digits : List Char}, (∀ c ∈ digits, c.isDigit = true) →
      ∀ c ∈ digits, isBlank c = false :=
    fun digit c member => not_isBlank_of_isDigit (digit c member)
  have signs : ∀ {sign : List Char} {negative : Bool}, SpellsSign sign negative →
      ∀ c ∈ sign, isBlank c = false := by
    intro sign negative inSign
    cases inSign with
    | none => nofun
    | plus => exact List.forall_mem_singleton.mpr (by decide)
    | minus => exact List.forall_mem_singleton.mpr (by decide)
  obtain ⟨inSign, digit, behindPoint, atPower, -⟩ := spelled
  refine List.forall_mem_append.mpr ⟨signs inSign, List.forall_mem_append.mpr
    ⟨solid digit, List.forall_mem_append.mpr ⟨?point, ?power⟩⟩⟩
  case point =>
    cases behindPoint with
    | none => nofun
    | point digit => exact List.forall_mem_cons.mpr ⟨by decide, solid digit⟩
  case power =>
    cases atPower with
    | none => nofun
    | letter letter inSign digit _ =>
      refine List.forall_mem_cons.mpr ⟨?_, List.forall_mem_append.mpr ⟨signs inSign, solid digit⟩⟩
      rcases letter with rfl | rfl <;> decide

theorem Spells.not_spellsDate (spelled : Spells text l) (d : Date) : ¬ SpellsDate text d := by
  rintro ⟨inYear, -, -⟩
  have read := read?_eq_some_iff.mpr spelled
  rw [read?_year_minus inYear] at read
  cases read

theorem Spells.not_spellsInstant (spelled : Spells text l) (t : Instant) :
    ¬ SpellsInstant text t := by
  rintro ⟨⟨inYear, -, -⟩, -, -, -, -⟩
  have read := read?_eq_some_iff.mpr spelled
  rw [List.append_assoc, List.cons_append, read?_year_minus inYear] at read
  cases read

end DecimalLiteral

namespace Json

/-- The text of a scalar: a text is its own, and truth values and numbers have their JSON text. -/
def scalarText? : Json → Option String
  | text s => some s
  | bool b => some (bool b).render
  | number n => some (number n).render
  | null | array _ | object _ => none

end Json

namespace Value

theorem toOption_read (raw : String) (type : FieldType) :
    (read raw type).toOption = read? raw type := by
  unfold read
  split
  next found => exact found.symm
  next missing => exact missing.symm

/-- No truth value is a literal of a type but text. -/
theorem read?_bool (b : Bool) {type : FieldType} (other : type ≠ .text) :
    read? (Json.bool b).render type = none := by
  cases type with
  | text => exact absurd rfl other
  | number => cases b <;> decide +kernel
  | date => cases b <;> decide +kernel
  | instant => cases b <;> decide +kernel

theorem trim_render (n : JsonNumber) : trim (Json.number n).render.toList = n.text := by
  have written : (Json.number n).render = String.ofList n.text := rfl
  obtain ⟨l, spelled⟩ := n.exists_spells_text
  rw [written, String.toList_ofList, trim_eq_self spelled.not_isBlank]

theorem read?_number (n : JsonNumber) :
    read? (Json.number n).render .number = n.toBinary64?.map number := by
  rw [read?, trim_render, n.literal_text]

/-- No decimal literal is a date or an instant. -/
theorem read?_calendar_of_spells {raw : String} {l : DecimalLiteral}
    (spelled : DecimalLiteral.Spells (trim raw.toList) l) {type : FieldType}
    (calendar : type ∈ [.date, .instant]) : read? raw type = none := by
  simp only [List.mem_cons, List.not_mem_nil, or_false] at calendar
  rcases calendar with rfl | rfl
  · exact read?_date_eq_none_iff.mpr fun ⟨d, onDate⟩ => spelled.not_spellsDate d onDate
  · exact read?_instant_eq_none_iff.mpr fun ⟨t, atInstant⟩ =>
      spelled.not_spellsInstant t atInstant

theorem read?_number_calendar (n : JsonNumber) {type : FieldType}
    (calendar : type ∈ [.date, .instant]) : read? (Json.number n).render type = none := by
  obtain ⟨l, spelled⟩ := n.exists_spells_text
  rw [← trim_render] at spelled
  exact read?_calendar_of_spells spelled calendar

theorem ofStored?_eq_read? {stored : Json} {text : String}
    (scalar : stored.scalarText? = some text) (type : FieldType) :
    ofStored? stored type = read? text type := by
  cases stored with
  | null => cases scalar
  | array items => cases scalar
  | object members => cases scalar
  | text s =>
    cases scalar
    cases type <;> rfl
  | bool b =>
    cases scalar
    cases type with
    | text => rfl
    | number => exact (read?_bool b (by decide)).symm
    | date => exact (read?_bool b (by decide)).symm
    | instant => exact (read?_bool b (by decide)).symm
  | number n =>
    cases scalar
    cases type with
    | text => rfl
    | number => exact (read?_number n).symm
    | date => exact (read?_number_calendar n (by decide)).symm
    | instant => exact (read?_number_calendar n (by decide)).symm

/-- A stored scalar is read as its text is read from a client, whatever the type. So a stored
whole number of 64 bits is the double nearest to it on both sides, and the text of a double is
read as that double. A truth value or a number is a date or an instant on neither side. -/
theorem ofStored?_eq_read {stored : Json} {text : String}
    (scalar : stored.scalarText? = some text) :
    (∀ type, ofStored? stored type = (read text type).toOption) ∧
    (∀ n : Int, stored = .whole n → -2 ^ 63 ≤ n → n < 2 ^ 64 →
      ∃ x, Binary64.ofInt? n = some x ∧ ofStored? stored .number = some (number x) ∧
        read text .number = .ok (number x)) ∧
    (∀ x, stored = .number (.real x) →
      ofStored? stored .number = some (number x) ∧ read text .number = .ok (number x)) ∧
    ((∀ s, stored ≠ .text s) → ∀ type ∈ [.date, .instant],
      ofStored? stored type = none ∧ read text type = .error ⟨text, type⟩) := by
  have same := ofStored?_eq_read? scalar
  refine ⟨fun type => ?alike, ?whole, ?real, ?calendar⟩
  case alike => rw [same, toOption_read]
  case whole =>
    rintro n rfl low high
    obtain ⟨x, nearest⟩ := Binary64.exists_ofInt? (show n.natAbs ≤ 2 ^ 64 by omega)
    have direct : ofStored? (.whole n) .number = some (number x) := by
      change (Binary64.ofInt? n).map number = _
      rw [nearest, Option.map_some]
    exact ⟨x, nearest, direct, read_eq_ok_iff.mpr ((same .number).symm.trans direct)⟩
  case real =>
    rintro x rfl
    have direct : ofStored? (.number (.real x)) .number = some (number x) := rfl
    exact ⟨direct, read_eq_ok_iff.mpr ((same .number).symm.trans direct)⟩
  case calendar =>
    intro other type calendar
    have missing : ofStored? stored type = none := by
      simp only [List.mem_cons, List.not_mem_nil, or_false] at calendar
      cases stored with
      | text s => exact absurd rfl (other s)
      | _ => rcases calendar with rfl | rfl <;> rfl
    exact ⟨missing, read_eq_error_iff.mpr ⟨(same type).symm.trans missing, rfl⟩⟩

/-- The first whole number that is no double, and a double that is written with an exponent. -/
theorem ofStored?_eq_read_beyond_doubles :
    (Json.whole (2 ^ 53 + 1)).scalarText? = some "9007199254740993" ∧
    (∃ x, Binary64.ofInt? (2 ^ 53 + 1) = some x ∧
      ofStored? (.whole (2 ^ 53 + 1)) .number = some (number x) ∧
      read "9007199254740993" .number = .ok (number x)) ∧
    read "9007199254740993" .date = .error ⟨"9007199254740993", .date⟩ ∧
    ∃ x, (Json.number (.real x)).scalarText? = some "1e+300" ∧
      read "1e+300" .number = .ok (number x) := by
  have whole : (Json.whole (2 ^ 53 + 1)).scalarText? = some "9007199254740993" := by
    decide +kernel
  have real : (Json.number (.real ⟨false, 0x7E37E43C8800759C, by decide⟩)).scalarText? =
      some "1e+300" := by
    decide +kernel
  obtain ⟨-, ofWhole, -, calendar⟩ := ofStored?_eq_read whole
  obtain ⟨-, -, ofReal, -⟩ := ofStored?_eq_read real
  exact ⟨whole, ofWhole _ rfl (by decide) (by decide), (calendar nofun .date (by decide)).2,
    _, real, (ofReal _ rfl).2⟩

end Value

end PagedSearch
