import PagedSearch.Criteria.Selection
import PagedSearch.Proofs.Value.Field
import Mathlib.Logic.ExistsUnique

/-!
# Comparisons with a value

A comparison operator looks at nothing but the order of the stored value to the expected
one (`passes_iff_admits`). Values of one type are in a total preorder, so the order is
always there and is one of three, and each operator admits some of the three. Hence the
operators split the readable values of a field among them, and a higher threshold lets
more values pass from below and fewer from above (`comparisons_partition`). A field
that cannot be read passes no operator.
-/
namespace PagedSearch

namespace Json

/-- What a document holds in a field, read as a type. -/
def reading? (document : Json) (field : String) (type : FieldType) : Option Value :=
  (document.get? field).bind (Value.ofStored? · type)

theorem type_of_reading? {document : Json} {field : String} {type : FieldType} {stored : Value}
    (held : document.reading? field type = some stored) : stored.type = type :=
  Value.type_of_bind_ofStored? held

end Json

namespace Value

theorem read_eq_ok_iff {raw : String} {type : FieldType} {value : Value} :
    read raw type = .ok value ↔ read? raw type = some value := by
  unfold read
  split
  next found read => simp [read]
  next unread => simp [unread]

end Value

namespace Operator

section Admits

variable (order : Ordering)

@[simp] theorem admits_less : less.admits order = true ↔ order = .lt := by
  cases order <;> decide

@[simp] theorem admits_equal : equal.admits order = true ↔ order = .eq := by
  cases order <;> decide

@[simp] theorem admits_greater : greater.admits order = true ↔ order = .gt := by
  cases order <;> decide

@[simp] theorem admits_notEqual : notEqual.admits order = true ↔ order ≠ .eq := by
  cases order <;> decide

@[simp] theorem admits_lessOrEqual : lessOrEqual.admits order = true ↔ order.isLE = true := by
  cases order <;> decide

@[simp] theorem admits_greaterOrEqual :
    greaterOrEqual.admits order = true ↔ order.isGE = true := by
  cases order <;> decide

/-- Any order is admitted by one of three operators and by no other of them. -/
theorem existsUnique_admits :
    ∃! operator, operator ∈ [less, equal, greater] ∧ operator.admits order = true := by
  have admitted : ∃ operator ∈ [less, equal, greater], operator.admits order = true := by
    cases order <;> decide
  have alone : ∀ operator ∈ [less, equal, greater], operator.admits order = true →
      ∀ other ∈ [less, equal, greater], other.admits order = true → other = operator := by
    cases order <;> decide
  obtain ⟨operator, member, admits⟩ := admitted
  exact ⟨operator, ⟨member, admits⟩, fun other both =>
    alone operator member admits other both.1 both.2⟩

end Admits

/-- A document satisfies the comparison of a field with a value. -/
def Passes (operator : Operator) (field : String) (expected : Value) (document : Json) : Prop :=
  (Criteria.compare field operator expected).selects document = true

section Passing

variable {operator : Operator} {field : String} {expected stored : Value} {document : Json}

/-- The order of a stored value to the expected one decides a comparison. -/
theorem passes_iff_admits (compares : operator.searchesText = false)
    (held : document.reading? field expected.type = some stored) :
    operator.Passes field expected document ↔
      operator.admits (stored.order expected) = true := by
  have found : (document.get? field).bind (Value.ofStored? · expected.type) = some stored := held
  have comparable := Value.compare?_eq_order (Json.type_of_reading? held)
  rw [Passes, Criteria.selects, found]
  simp [holds, compares, comparable]

/-- What cannot be read satisfies nothing, whatever the operator. -/
theorem not_passes_of_unreadable (held : document.reading? field expected.type = none) :
    ¬ operator.Passes field expected document := by
  have found : (document.get? field).bind (Value.ofStored? · expected.type) = none := held
  rw [Passes, Criteria.selects, found]
  exact Bool.false_ne_true

theorem exists_reading_of_passes (passes : operator.Passes field expected document) :
    ∃ stored, document.reading? field expected.type = some stored := by
  cases held : document.reading? field expected.type with
  | none => exact absurd passes (not_passes_of_unreadable held)
  | some stored => exact ⟨stored, rfl⟩

/-- What passes one threshold passes another of the type, if every stored value does. -/
theorem Passes.carry {other : Value} (compares : operator.searchesText = false)
    (same : other.type = expected.type)
    (carries : ∀ stored : Value, operator.admits (stored.order expected) = true →
      operator.admits (stored.order other) = true)
    (passes : operator.Passes field expected document) :
    operator.Passes field other document := by
  obtain ⟨stored, held⟩ := exists_reading_of_passes passes
  have held_other : document.reading? field other.type = some stored := same ▸ held
  rw [passes_iff_admits compares held_other]
  exact carries stored ((passes_iff_admits compares held).mp passes)

end Passing

/-- Let a value be read as the type of a field, and take any document. If the document holds
a value of that type in the field, then exactly one of less, equal and greater is satisfied;
unequal is satisfied if equal is not, and the two other operators if greater or equal is, or
less or equal. If it holds none, then no operator is satisfied. A value that is not greater
than another lets no more documents pass below it, and no fewer above. -/
theorem comparisons_partition (field : String) (type : FieldType) (raw : String)
    (expected : Value) (read : Value.read raw type = .ok expected) (document : Json) :
    ((document.reading? field type).isSome = true →
      (∃! operator, operator ∈ [less, equal, greater] ∧
        operator.Passes field expected document) ∧
      (notEqual.Passes field expected document ↔ ¬ equal.Passes field expected document) ∧
      (greaterOrEqual.Passes field expected document ↔
        greater.Passes field expected document ∨ equal.Passes field expected document) ∧
      (lessOrEqual.Passes field expected document ↔
        less.Passes field expected document ∨ equal.Passes field expected document)) ∧
    (document.reading? field type = none →
      ∀ operator : Operator, ¬ operator.Passes field expected document) ∧
    ∀ (other : String) (larger : Value), Value.read other type = .ok larger →
      expected.compare? larger ≠ some .gt →
      (less.Passes field expected document → less.Passes field larger document) ∧
      (lessOrEqual.Passes field expected document → lessOrEqual.Passes field larger document) ∧
      (greater.Passes field larger document → greater.Passes field expected document) ∧
      (greaterOrEqual.Passes field larger document →
        greaterOrEqual.Passes field expected document) := by
  obtain rfl := Value.type_of_read? (Value.read_eq_ok_iff.mp read)
  refine ⟨?readable, fun held _ => not_passes_of_unreadable held, ?thresholds⟩
  case readable =>
    intro some_held
    obtain ⟨stored, held⟩ := Option.isSome_iff_exists.mp some_held
    have passes (operator : Operator) (compares : operator.searchesText = false) :=
      passes_iff_admits compares held
    refine ⟨?_, ?_, ?_, ?_⟩
    · have compares : ∀ operator ∈ [less, equal, greater], operator.searchesText = false := by
        decide
      refine (existsUnique_congr fun operator => ?_).mpr
        (existsUnique_admits (stored.order expected))
      exact and_congr_right fun member => passes operator (compares operator member)
    · rw [passes notEqual rfl, passes equal rfl]
      simp
    · rw [passes greaterOrEqual rfl, passes greater rfl, passes equal rfl]
      cases stored.order expected <;> simp
    · rw [passes lessOrEqual rfl, passes less rfl, passes equal rfl]
      cases stored.order expected <;> simp
  case thresholds =>
    intro other larger other_read not_greater
    have same := Value.type_of_read? (Value.read_eq_ok_iff.mp other_read)
    have below : (expected.order larger).isLE = true := by
      rw [Value.compare?_eq_order same.symm] at not_greater
      cases order : expected.order larger <;> simp_all
    have above : (larger.order expected).isGE = true := Std.OrientedCmp.isGE_of_isLE below
    refine ⟨.carry rfl same ?_, .carry rfl same ?_, .carry rfl same.symm ?_,
      .carry rfl same.symm ?_⟩
    · intro stored
      rw [admits_less, admits_less]
      exact fun passes => Std.TransCmp.lt_of_lt_of_isLE passes below
    · intro stored
      rw [admits_lessOrEqual, admits_lessOrEqual]
      exact fun passes => Std.TransCmp.isLE_trans passes below
    · intro stored
      rw [admits_greater, admits_greater]
      exact fun passes => Std.TransCmp.gt_of_gt_of_isGE passes above
    · intro stored
      rw [admits_greaterOrEqual, admits_greaterOrEqual]
      exact fun passes => Std.TransCmp.isGE_trans passes above

/-- A stored zero and the literal of a negative zero are equal, so the zero is not unequal to
it and passes the positive zero as a threshold too. A text that is no number is not even
unequal. -/
theorem comparisons_partition_zeros :
    Value.read " -0 " .number = .ok (.number (.zero true)) ∧
      ¬ notEqual.Passes "size" (.number (.zero true)) (.object [("size", .whole 0)]) ∧
      lessOrEqual.Passes "size" (.number (.zero false)) (.object [("size", .whole 0)]) ∧
      ¬ notEqual.Passes "size" (.number (.zero true)) (.object [("size", .text "none")]) := by
  have read : Value.read " -0 " .number = .ok (.number (.zero true)) :=
    Value.read_eq_ok_iff.mpr (by decide +kernel)
  have other_read : Value.read "0" .number = .ok (.number (.zero false)) :=
    Value.read_eq_ok_iff.mpr (by decide +kernel)
  have equal_zero : equal.Passes "size" (.number (.zero true)) (.object [("size", .whole 0)]) := by
    unfold Passes
    decide +kernel
  obtain ⟨readable, -, thresholds⟩ := comparisons_partition "size" .number " -0 " _ read
    (.object [("size", .whole 0)])
  obtain ⟨-, unequal, -, lessOrEqual_iff⟩ := readable (by decide +kernel)
  obtain ⟨-, unreadable, -⟩ := comparisons_partition "size" .number " -0 " _ read
    (.object [("size", .text "none")])
  obtain ⟨-, raised, -⟩ := thresholds "0" _ other_read (by decide)
  exact ⟨read, fun passes => unequal.mp passes equal_zero,
    raised (lessOrEqual_iff.mpr (.inr equal_zero)), unreadable (by decide +kernel) notEqual⟩

end Operator

end PagedSearch
