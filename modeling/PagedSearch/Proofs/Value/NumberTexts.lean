import PagedSearch.Proofs.Criteria.Comparisons
import PagedSearch.Proofs.Criteria.Wire
import PagedSearch.Proofs.Json.Doubles
import PagedSearch.Proofs.Value.Scalars

/-!
# Numbers in texts

Both texts of a number denote it exactly, but the two readers differ. What a client is shown is
read as the number itself. What is written as JSON is read with one rounding for the digits, one
for the power of ten and one for the result, so the number that is read may be up to four places
away, and a filter on equality then selects other documents (`Value.number_texts`). A number with
few digits and a small power of ten has one rounding only and is kept in both.
-/
namespace PagedSearch

namespace Binary64

variable {x y : Binary64}

/-- Doubles of one sign have their own places. -/
theorem eq_of_place (sign : x.negative = y.negative) (same : x.place = y.place) : x = y := by
  refine eq_iff.mpr ⟨sign, ?_⟩
  unfold place at same
  rw [sign] at same
  split at same <;> omega

end Binary64

namespace Criteria

/-- The text of any tree that is not nested too deep is read as a tree of the same shape, with
each number as its own text is read. -/
theorem read?_render_reread (criteria : Criteria) :
    read? criteria.toJson.render =
      if criteria.nesting ≤ nestingLimit then some (criteria.mapNumbers Binary64.reread)
      else none :=
  read?_render_map fun x _ => x.readsAs_reread

/-- Filters on equality with numbers of one sign select the same documents only if the numbers
are the same. -/
theorem selects_equal_alike_iff {x y : Binary64} (sign : y.negative = x.negative)
    (field : String) :
    (∀ document, (compare field .equal (.number y)).selects document =
      (compare field .equal (.number x)).selects document) ↔ y = x := by
  constructor
  · intro alike
    have held : Json.reading? (.object [(field, .number (.real x))]) field .number =
        some (.number x) := by
      rw [Json.reading?, Json.get?, List.lookup_cons_self]
      rfl
    have own : Operator.equal.Passes field (.number x) (.object [(field, .number (.real x))]) :=
      (Operator.passes_iff_admits rfl held).mpr
        ((Operator.admits_equal _).mpr Std.ReflCmp.compare_self)
    have other : Operator.equal.Passes field (.number y) (.object [(field, .number (.real x))]) :=
      (alike _).trans own
    have equal := (Operator.admits_equal _).mp ((Operator.passes_iff_admits rfl held).mp other)
    have places : x.compare y = .eq := by
      rw [← Option.some.injEq, ← equal]
      exact Value.compare?_eq_order (a := .number x) (b := .number y) rfl
    exact (Binary64.eq_of_place sign.symm (Std.LawfulEqOrd.eq_of_compare places)).symm
  · rintro rfl document
    rfl

end Criteria

namespace Value

theorem read?_display_number (x : Binary64) :
    read? (number x).display .number = some (number x) := by
  have read := x.read?_plain
  obtain ⟨l, spelled, -⟩ := Binary64.read?_eq_some_iff.mp read
  rw [read?, display, String.toList_ofList, Text.trim_eq_self spelled.not_isBlank, read,
    Option.map_some]

theorem ofJsonText?_number (x : Binary64) :
    ofJsonText? (number x).toJson.render = some (number x.reread) := by
  have alone : ∀ n ∈ (number x).toJson.numbers, n.ReadsAs (n.mapReal Binary64.reread) := by
    intro n member
    obtain ⟨_, same, rfl⟩ := numbers_toJson member
    cases same
    exact x.readsAs_reread
  have syntaxRead := Node.read?_print_map alone
  simp only [ofJsonText?, Json.render, String.toList_ofList, syntaxRead, Option.bind_eq_bind,
    Option.bind_some]
  rfl

/-- A number is displayed as a text that is read as the number itself, and its JSON text spells
it too. But that text is read as a number of its sign up to four places away, be it the text of
the value or of a filter. It is the number itself if its digits are a number of 53 bits and the
power of ten is at most 22 on either side. Only then do the filter on equality that was sent
and the one that is read select the same documents. -/
theorem number_texts (x : Binary64) (field : String) :
    read (number x).display .number = .ok (number x) ∧
    Binary64.read? x.json = some x ∧
    ∃ y, ofJsonText? (number x).toJson.render = some (number y) ∧
      Criteria.read? (Criteria.compare field .equal (number x)).toJson.render =
        some (.compare field .equal (number y)) ∧
      x.Near 4 y ∧
      (∀ l, DecimalLiteral.Spells x.json l →
        l.coefficient ≤ 2 ^ 53 → l.scale.natAbs ≤ 22 → y = x) ∧
      ((∀ document, (Criteria.compare field .equal (number y)).selects document =
        (Criteria.compare field .equal (number x)).selects document) ↔ y = x) := by
  have spelled := x.read?_json
  obtain ⟨l, spells, -⟩ := Binary64.read?_eq_some_iff.mp spelled
  have near := Binary64.near_reread spells
  refine ⟨read_eq_ok_iff.mpr (read?_display_number x), spelled, x.reread,
    ofJsonText?_number x, ?filter, near.mono l.scaled.roundings_le, ?kept,
    Criteria.selects_equal_alike_iff near.sign field⟩
  case filter => exact Criteria.read?_render_reread (.compare field .equal (number x))
  case kept => exact fun l spells few small => Binary64.reread_of_few spells few small

/-- One tenth has one digit, so it is kept though no double is one tenth. -/
theorem number_texts_tenth :
    DecimalLiteral.Spells (Binary64.json ⟨false, 0x3FB999999999999A, by decide⟩)
      ⟨false, ['0'], ['1'], 0⟩ ∧
    ofJsonText? (number ⟨false, 0x3FB999999999999A, by decide⟩).toJson.render =
      some (number ⟨false, 0x3FB999999999999A, by decide⟩) := by
  have spelled : DecimalLiteral.Spells (Binary64.json ⟨false, 0x3FB999999999999A, by decide⟩)
      ⟨false, ['0'], ['1'], 0⟩ :=
    DecimalLiteral.read?_eq_some_iff.mp (by decide +kernel)
  obtain ⟨-, -, y, read, -, -, kept, -⟩ :=
    number_texts ⟨false, 0x3FB999999999999A, by decide⟩ "height"
  rw [kept _ spelled (by decide) (by decide)] at read
  exact ⟨spelled, read⟩

/-- The number 2^53 - 1 is written with a zero behind the point, which makes its digits a number
of 57 bits. The number below it is read, and the filter that is read no longer selects a document
with 2^53 - 1. -/
theorem json_text_read_one_below :
    (number ⟨false, 0x433FFFFFFFFFFFFF, by decide⟩).display = "9007199254740991" ∧
    (number ⟨false, 0x433FFFFFFFFFFFFF, by decide⟩).toJson.render =
      "\x7b\"type\":\"number\",\"value\":9007199254740991.0\x7d" ∧
    ofJsonText? "\x7b\"type\":\"number\",\"value\":9007199254740991.0\x7d" =
      some (number ⟨false, 0x433FFFFFFFFFFFFE, by decide⟩) ∧
    Criteria.read? (Criteria.compare "n" .equal
        (number ⟨false, 0x433FFFFFFFFFFFFF, by decide⟩)).toJson.render =
      some (.compare "n" .equal (number ⟨false, 0x433FFFFFFFFFFFFE, by decide⟩)) ∧
    (Criteria.compare "n" .equal (number ⟨false, 0x433FFFFFFFFFFFFF, by decide⟩)).selects
      (.object [("n", .whole 9007199254740991)]) = true ∧
    (Criteria.compare "n" .equal (number ⟨false, 0x433FFFFFFFFFFFFE, by decide⟩)).selects
      (.object [("n", .whole 9007199254740991)]) = false := by
  decide +kernel

end Value

end PagedSearch
