import PagedSearch.Proofs.Calendar.Grammar
import PagedSearch.Proofs.Number.Nearest

/-!
# Client texts of numbers

A client text is a number exactly if its trimmed form spells a decimal literal before the middle
of the largest double and 2^1024. It is then the double the literal is rounded to, which is a
zero of the literal's sign up to half of the smallest double (`Value.read_decimal`). The words
that programs write for infinity, or for no number, have letters where a literal has
digits, so no text is read as such a number.
-/
namespace PagedSearch

open Text

namespace DecimalLiteral

/-- Up to half of the smallest double above zero nothing is left of a literal but its sign. -/
theorem roundsTo_zero_iff {l : DecimalLiteral} :
    l.RoundsTo (.zero l.negative) ↔ l.value ≤ 1 / 2 ^ 1075 := by
  have nonneg : 0 ≤ l.value * unitsPerOne := mul_nonneg l.value_nonneg (Nat.cast_nonneg _)
  have units : 2 * unitsPerOne = 2 ^ 1075 := by decide +kernel
  have half := congrArg (Nat.cast : Nat → ℚ) units
  rw [Nat.cast_mul, Nat.cast_pow, Nat.cast_ofNat] at half
  have positive : (0 : ℚ) < 2 ^ 1075 := pow_pos zero_lt_two _
  calc l.RoundsTo (.zero l.negative)
    _ ↔ IsNearest 0 (l.value * unitsPerOne) := by rw [roundsTo_iff]; exact and_iff_right rfl
    _ ↔ l.value * (2 * unitsPerOne) ≤ 1 := by rw [isNearest_zero_iff nonneg, mul_left_comm]
    _ ↔ l.value ≤ 1 / 2 ^ 1075 := by rw [half, le_div_iff₀ positive]

/-- A word for a number that is not finite is no literal, with or without a sign. -/
theorem read?_nonFinite {sign word : List Char} {negative : Bool} {name : String}
    (inSign : SpellsSign sign negative) (named : name ∈ ["nan", "inf", "infinity"])
    (same : sameWord word name.toList = true) : read? (sign ++ word) = none := by
  have letters : ∀ name ∈ ["nan", "inf", "infinity"],
      name.toList.head?.map Char.toUpper ∈ [some 'N', some 'I'] := by
    decide
  have begins := letters name named
  rw [← head?_of_sameWord same] at begins
  cases word with
  | nil => exact absurd begins (by decide)
  | cons c rest =>
    have letter : c.toUpper = 'N' ∨ c.toUpper = 'I' := by simpa using begins
    refine read?_head inSign ?_ ?_ rest
    · by_contra digit
      rw [toUpper_digit (by simpa using digit)] at letter
      rcases letter with rfl | rfl
      · exact digit rfl
      · exact digit rfl
    · intro mark
      simp only [List.mem_cons, List.not_mem_nil, or_false] at mark
      rcases mark with rfl | rfl | rfl <;> exact absurd letter (by decide)

end DecimalLiteral

namespace Value

open DecimalLiteral (Spells SpellsSign)

theorem read?_decimal_eq_some_iff {raw : String} {value : Value} :
    read? raw .number = some value ↔
      ∃ l x, Spells (trim raw.toList) l ∧ l.RoundsTo x ∧ value = .number x := by
  simp only [read?, Option.map_eq_some_iff, Binary64.read?_eq_some_iff,
    DecimalLiteral.roundsTo_iff]
  constructor
  · rintro ⟨x, ⟨l, spelled, rounds⟩, rfl⟩
    exact ⟨l, x, spelled, rounds, rfl⟩
  · rintro ⟨l, x, spelled, rounds, rfl⟩
    exact ⟨x, ⟨l, spelled, rounds⟩, rfl⟩

theorem exists_read?_decimal_iff {raw : String} :
    (∃ value, read? raw .number = some value) ↔
      ∃ l, Spells (trim raw.toList) l ∧ l.value < 2 ^ 1024 - 2 ^ 970 := by
  simp only [read?_decimal_eq_some_iff, ← DecimalLiteral.exists_roundsTo_iff]
  constructor
  · rintro ⟨-, l, x, spelled, rounds, rfl⟩
    exact ⟨l, spelled, x, rounds⟩
  · rintro ⟨l, spelled, x, rounds⟩
    exact ⟨_, l, x, spelled, rounds, rfl⟩

theorem read?_decimal_eq_none_iff {raw : String} :
    read? raw .number = none ↔
      ∀ l, Spells (trim raw.toList) l → 2 ^ 1024 - 2 ^ 970 ≤ l.value := by
  rw [Option.eq_none_iff_forall_ne_some, ← not_exists, exists_read?_decimal_iff]
  simp only [not_exists, not_and, not_lt]

/-- A client text is a number exactly if its trimmed form spells a decimal literal that rounds to
a finite double, which those before 2^1024 - 2^970 do, and its value is that double. A literal
up to half of the smallest double is a zero of its own sign. Every other text is an error that
shows the whole text, and so are the words for infinity and for no number in any case, with a
sign or none. -/
theorem read_decimal (raw : String) :
    (∀ value, read raw .number = .ok value ↔
      ∃ l x, Spells (trim raw.toList) l ∧ l.RoundsTo x ∧ value = .number x) ∧
    ((∃ value, read raw .number = .ok value) ↔
      ∃ l, Spells (trim raw.toList) l ∧ l.value < 2 ^ 1024 - 2 ^ 970) ∧
    (∀ unreadable, read raw .number = .error unreadable ↔
      (∀ l, Spells (trim raw.toList) l → 2 ^ 1024 - 2 ^ 970 ≤ l.value) ∧
        unreadable = ⟨raw, .number⟩) ∧
    (∀ l, Spells (trim raw.toList) l →
      (read raw .number = .ok (.number (.zero l.negative)) ↔ l.value ≤ 1 / 2 ^ 1075)) ∧
    (∀ sign negative word, SpellsSign sign negative →
      (∃ name ∈ ["nan", "inf", "infinity"], sameWord word name.toList = true) →
      trim raw.toList = sign ++ word → read raw .number = .error ⟨raw, .number⟩) := by
  simp only [read_eq_ok_iff]
  refine ⟨fun value => read?_decimal_eq_some_iff, exists_read?_decimal_iff,
    fun unreadable => ?errors, fun l spelled => ?underflow, ?words⟩
  case errors => rw [read_eq_error_iff, read?_decimal_eq_none_iff]
  case underflow =>
    rw [read?_decimal_eq_some_iff, ← DecimalLiteral.roundsTo_zero_iff]
    constructor
    · rintro ⟨other, x, again, rounds, same⟩
      obtain rfl := spelled.unique again
      exact Value.number.inj same ▸ rounds
    · exact fun rounds => ⟨l, _, spelled, rounds, rfl⟩
  case words =>
    rintro sign negative word inSign ⟨name, named, same⟩ text
    have noLiteral := DecimalLiteral.read?_nonFinite inSign named same
    rw [read_eq_error_iff]
    simp [read?, Binary64.read?, text, noLiteral]

/-- The first literal of seventeen digits that is beyond every double, a literal that leaves a
negative zero, and a word. -/
theorem read_decimal_extremes :
    read "1.7976931348623159e308" .number = .error ⟨"1.7976931348623159e308", .number⟩ ∧
    read " -1E-400 " .number = .ok (.number (.zero true)) ∧
    read "+Inf" .number = .error ⟨"+Inf", .number⟩ := by
  refine ⟨?beyond, ?small, ?word⟩
  case beyond =>
    obtain ⟨-, -, errors, -⟩ := read_decimal "1.7976931348623159e308"
    refine (errors _).mpr ⟨fun l spelled => ?_, rfl⟩
    have text : Spells (trim "1.7976931348623159e308".toList)
        ⟨false, ['1'], "7976931348623159".toList, 308⟩ :=
      DecimalLiteral.read?_eq_some_iff.mp (by decide +kernel)
    rw [spelled.unique text]
    decide +kernel
  case small =>
    obtain ⟨-, -, -, underflow, -⟩ := read_decimal " -1E-400 "
    have text : Spells (trim " -1E-400 ".toList) ⟨true, ['1'], [], -400⟩ :=
      DecimalLiteral.read?_eq_some_iff.mp (by decide +kernel)
    exact (underflow _ text).mpr (by decide +kernel)
  case word =>
    obtain ⟨-, -, -, -, words⟩ := read_decimal "+Inf"
    exact words ['+'] false "Inf".toList .plus ⟨"inf", by decide, by decide⟩ (by decide +kernel)

end Value

end PagedSearch
