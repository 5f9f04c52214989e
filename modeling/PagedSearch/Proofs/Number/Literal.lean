import PagedSearch.Number.Literal
import PagedSearch.Proofs.Number.Rounding
import PagedSearch.Proofs.Text.Digits
import Mathlib.Algebra.Order.Field.Power
import Mathlib.Tactic.NormNum
import Mathlib.Tactic.Positivity

/-!
# Exact values of decimal literals

A literal denotes an exact rational number, its `value`, and is read as a double of its
sign that is nearest to it (`toBinary64?_eq_some_iff`). That the reader leaves out the
arithmetic for literals far below or beyond all doubles makes no difference: the nearest
magnitude is zero for the ones and not finite for the others. So two literals with one
sign and one value are read alike, however many digits and whatever exponent they are
written with.
-/
namespace PagedSearch

theorem ten_zpow_eq (exponent : Int) :
    (10 : ℚ) ^ exponent = 10 ^ exponent.toNat / 10 ^ (-exponent).toNat := by
  rcases Int.le_total 0 exponent with positive | negative
  · obtain ⟨n, rfl⟩ := Int.eq_ofNat_of_zero_le positive
    simp
  · obtain ⟨n, opposite⟩ := Int.eq_ofNat_of_zero_le (show 0 ≤ -exponent by omega)
    obtain rfl : exponent = -n := by omega
    simp

section Extremes

variable {units : ℚ} {magnitude : Nat}

/-- Up to half a unit a number is nearest to nothing. -/
theorem isNearest_zero_iff (nonneg : 0 ≤ units) : IsNearest 0 units ↔ 2 * units ≤ 1 := by
  have middles : twiceMiddle 0 = 0 ∧ twiceMiddle (0 + 1) = 1 := by decide
  constructor
  · intro nearest
    exact_mod_cast middles.2 ▸ nearest.below
  · intro small
    refine ⟨?_, ?_, fun _ => rfl⟩
    · rw [middles.1]
      exact_mod_cast mul_nonneg zero_le_two nonneg
    · rw [middles.2]
      exact_mod_cast small

theorem unitsOfMagnitude_bound_le :
    unitsOfMagnitude magnitudeBound ≤ 10 ^ 310 * unitsPerOne := by
  decide +kernel

/-- What a finite magnitude is nearest to is below the first magnitude that is not finite. -/
theorem IsNearest.lt_of_finite (nearest : IsNearest magnitude units)
    (finite : magnitude < magnitudeBound) : units < unitsOfMagnitude magnitudeBound := by
  have here := unitsOfMagnitude_strictMono finite
  have next := unitsOfMagnitude_strictMono.monotone
    (show magnitude + 1 ≤ magnitudeBound from finite)
  have middle : twiceMiddle (magnitude + 1) < 2 * unitsOfMagnitude magnitudeBound := by
    rw [twiceMiddle, Nat.add_sub_cancel]
    omega
  have bound : (twiceMiddle (magnitude + 1) : ℚ) < 2 * unitsOfMagnitude magnitudeBound := by
    exact_mod_cast middle
  linarith [nearest.below]

/-- A number before the last middle has a finite nearest magnitude. -/
theorem IsNearest.finite (nearest : IsNearest magnitude units)
    (inside : 2 * units < twiceMiddle magnitudeBound) : magnitude < magnitudeBound :=
  twiceMiddle_strictMono.lt_iff_lt.mp (Nat.cast_lt.mp (nearest.above.trans_lt inside))

end Extremes

namespace Binary64

theorem eq_iff {x y : Binary64} :
    x = y ↔ x.negative = y.negative ∧ x.magnitude = y.magnitude := by
  obtain ⟨_, _, _⟩ := x
  obtain ⟨_, _, _⟩ := y
  simp

theorem nearest?_eq_some_iff {negative : Bool} {n d : Nat} {x : Binary64} (pos : 0 < d) :
    nearest? negative n d = some x ↔ x.negative = negative ∧ IsNearest x.magnitude (n / d) := by
  rw [← nearestMagnitude_eq_iff pos, nearest?]
  split
  next finite =>
    rw [Option.some.injEq, eq_comm, eq_iff, eq_comm (a := nearestMagnitude n d)]
  next infinite =>
    constructor
    · nofun
    · rintro ⟨-, same⟩
      exact absurd (same ▸ x.finite) infinite

theorem ofNat?_eq_some_iff {negative : Bool} {n : Nat} {x : Binary64} :
    ofNat? negative n = some x ↔
      x.negative = negative ∧ IsNearest x.magnitude (n * unitsPerOne) := by
  rw [ofNat?, nearest?_eq_some_iff (by decide), Nat.cast_mul, Nat.cast_one, div_one]

/-- Whole numbers up to 10^308 have a nearest double. -/
theorem exists_ofNat? (negative : Bool) {n : Nat} (fits : n ≤ 10 ^ 308) :
    ∃ x, ofNat? negative n = some x := by
  have last : 2 * (10 ^ 308 * unitsPerOne) < twiceMiddle magnitudeBound := by decide +kernel
  have inside : 2 * (n * unitsPerOne) < twiceMiddle magnitudeBound :=
    (Nat.mul_le_mul_left 2 (Nat.mul_le_mul_right unitsPerOne fits)).trans_lt last
  have nearest := isNearest_nearestMagnitude (n * unitsPerOne) (show 0 < 1 by decide)
  rw [Nat.cast_one, div_one] at nearest
  exact ⟨_, dif_pos (nearest.finite (by exact_mod_cast inside))⟩

/-- Whole numbers of 64 bits have a nearest double, with or without a sign. -/
theorem exists_ofInt? {n : Int} (fits : n.natAbs ≤ 2 ^ 64) : ∃ x, ofInt? n = some x :=
  exists_ofNat? _ (fits.trans (by decide +kernel))

end Binary64

namespace DecimalLiteral

/-- The exact number that a literal denotes, without its sign. -/
def value (l : DecimalLiteral) : ℚ :=
  l.coefficient * 10 ^ l.scale

/-- The coefficient of the literal is written with digits. -/
def HasDigits (l : DecimalLiteral) : Prop :=
  ∀ c ∈ l.whole ++ l.fraction, c.isDigit = true

variable {l : DecimalLiteral}

theorem value_nonneg (l : DecimalLiteral) : 0 ≤ l.value := by
  unfold value
  positivity

theorem coefficient_lt (digits : l.HasDigits) : l.coefficient < 10 ^ l.significantDigits := by
  rw [coefficient, ← Text.digitsValue_dropZeros]
  exact Text.digitsValue_lt fun c member => digits c ((List.dropWhile_sublist _).subset member)

theorem le_coefficient (digits : l.HasDigits) (positive : l.coefficient ≠ 0) :
    10 ^ l.significantDigits ≤ 10 * l.coefficient :=
  Text.pow_length_dropZeros_le digits positive

theorem value_lt (digits : l.HasDigits) : l.value < 10 ^ (l.scale + l.significantDigits) := by
  have cast : (l.coefficient : ℚ) < 10 ^ l.significantDigits := by
    exact_mod_cast coefficient_lt digits
  have step : (0 : ℚ) < 10 ^ l.scale := by positivity
  rw [value, zpow_add₀ (by norm_num), zpow_natCast, mul_comm]
  exact mul_lt_mul_of_pos_left cast step

theorem le_value (digits : l.HasDigits) (positive : l.coefficient ≠ 0) :
    (10 : ℚ) ^ (l.scale + l.significantDigits) ≤ 10 * l.value := by
  have cast : (10 : ℚ) ^ l.significantDigits ≤ 10 * l.coefficient := by
    exact_mod_cast le_coefficient digits positive
  have step : (0 : ℚ) < 10 ^ l.scale := by positivity
  rw [value, zpow_add₀ (by norm_num), zpow_natCast, mul_comm, ← mul_assoc]
  exact mul_le_mul_of_nonneg_right cast step.le

/-- The nearest magnitude of a literal that the reader takes for zero. -/
theorem isNearest_zero_of_small (digits : l.HasDigits)
    (small : l.coefficient = 0 ∨ l.scale + l.significantDigits < -330) :
    IsNearest 0 (l.value * unitsPerOne) := by
  have bound : 2 * (l.value * unitsPerOne) < 1 := by
    rcases small with zero | small
    · rw [value, zero, Nat.cast_zero, zero_mul, zero_mul, mul_zero]
      exact one_pos
    · have half : (2 * unitsPerOne : ℚ) ≤ 10 ^ 331 := by
        exact_mod_cast (show 2 * unitsPerOne ≤ 10 ^ 331 by decide +kernel)
      calc 2 * (l.value * unitsPerOne) = l.value * (2 * unitsPerOne) := by ring
        _ ≤ l.value * 10 ^ 331 := mul_le_mul_of_nonneg_left half l.value_nonneg
        _ < 10 ^ (-331 : Int) * 10 ^ 331 := by
          refine mul_lt_mul_of_pos_right (lt_of_lt_of_le (value_lt digits) ?_) (by positivity)
          exact zpow_le_zpow_right₀ (by norm_num) (by omega)
        _ = 1 := zpow_neg_mul_zpow_self 331 (by norm_num)
  have nonneg : 0 ≤ l.value * unitsPerOne := mul_nonneg l.value_nonneg (Nat.cast_nonneg _)
  exact (isNearest_zero_iff nonneg).mpr bound.le

/-- No finite magnitude is nearest to a literal that the reader takes for infinite. -/
theorem not_isNearest_of_large (digits : l.HasDigits) (positive : l.coefficient ≠ 0)
    (large : 310 < l.scale + l.significantDigits) {magnitude : Nat}
    (finite : magnitude < magnitudeBound) : ¬ IsNearest magnitude (l.value * unitsPerOne) := by
  intro nearest
  have size : (10 : ℚ) * 10 ^ (310 : Int) ≤ 10 * l.value :=
    calc (10 : ℚ) * 10 ^ (310 : Int) = 10 ^ (1 + 310 : Int) :=
          (zpow_one_add₀ (by norm_num) 310).symm
      _ ≤ 10 ^ (l.scale + l.significantDigits) := zpow_le_zpow_right₀ (by norm_num) (by omega)
      _ ≤ 10 * l.value := le_value digits positive
  have bound : (unitsOfMagnitude magnitudeBound : ℚ) ≤ 10 ^ 310 * unitsPerOne := by
    exact_mod_cast unitsOfMagnitude_bound_le
  rw [zpow_ofNat] at size
  have beyond : (unitsOfMagnitude magnitudeBound : ℚ) ≤ l.value * unitsPerOne :=
    bound.trans (mul_le_mul_of_nonneg_right (le_of_mul_le_mul_left size (by norm_num))
      (Nat.cast_nonneg _))
  exact absurd (nearest.lt_of_finite finite) beyond.not_gt

/-- A literal is read as the double of its sign that is nearest to its value. -/
theorem toBinary64?_eq_some_iff (digits : l.HasDigits) {x : Binary64} :
    l.toBinary64? = some x ↔
      x.negative = l.negative ∧ IsNearest x.magnitude (l.value * unitsPerOne) := by
  unfold toBinary64?
  dsimp only
  split
  next small =>
    have nearest := isNearest_zero_of_small digits small
    rw [Option.some.injEq, eq_comm, Binary64.eq_iff]
    refine and_congr_right fun _ => ⟨fun zero => ?_, fun other => other.unique nearest⟩
    rw [zero]
    exact nearest
  next counted =>
    split
    next large =>
      simp only [not_or] at counted
      refine ⟨nofun, fun found => ?_⟩
      exact absurd found.2 (not_isNearest_of_large digits counted.1 large x.finite)
    next =>
      have same : ((l.coefficient * Nat.pow 10 l.scale.toNat * unitsPerOne : Nat) : ℚ) /
          (Nat.pow 10 (-l.scale).toNat : Nat) = l.value * unitsPerOne := by
        rw [value, ten_zpow_eq]
        push_cast [Nat.pow_eq]
        ring
      have denominator : 0 < Nat.pow 10 (-l.scale).toNat := Nat.pow_pos (by decide)
      rw [Binary64.nearest?_eq_some_iff denominator, same]

end DecimalLiteral

end PagedSearch
