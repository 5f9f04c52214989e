import PagedSearch.Proofs.Number.Shortest
import Mathlib.Algebra.Order.Field.Basic
import Mathlib.Tactic.GCongr

/-!
# Several roundings in a row

A rounded result is off by a factor of at most 1 + 2^-53, above or below, if it is not
subnormal (`IsNearest.withinRoundings`), and such factors add up in products and quotients.
The same factor takes no number past more than one middle between two neighbours
(`twiceMiddle_mul_lt`). So a result that is rounded some times before its last rounding is
at most as many magnitudes away from the nearest one (`IsNearest.le_add`).
-/
namespace PagedSearch

/-- What one rounding multiplies or divides a number by at most. -/
def roundingFactor : ℚ := 1 + 1 / 2 ^ 53

theorem one_lt_roundingFactor : 1 < roundingFactor := by
  norm_num [roundingFactor]

theorem roundingFactor_pos : 0 < roundingFactor :=
  one_pos.trans one_lt_roundingFactor

/-- Two numbers that are apart by at most as many roundings. -/
structure WithinRoundings (count : Nat) (a b : ℚ) : Prop where
  le : a ≤ b * roundingFactor ^ count
  ge : b ≤ a * roundingFactor ^ count

namespace WithinRoundings

variable {count more : Nat} {a b c d : ℚ}

theorem of_eq (same : a = b) : WithinRoundings 0 a b := by
  subst same
  constructor <;> simp

theorem eq_of_zero (within : WithinRoundings 0 a b) : a = b := by
  obtain ⟨le, ge⟩ := within
  rw [pow_zero, mul_one] at le ge
  exact le_antisymm le ge

theorem trans (first : WithinRoundings count a b) (second : WithinRoundings more b c) :
    WithinRoundings (count + more) a c := by
  have positive := roundingFactor_pos
  constructor
  · calc a ≤ b * roundingFactor ^ count := first.le
      _ ≤ c * roundingFactor ^ more * roundingFactor ^ count := by gcongr; exact second.le
      _ = c * roundingFactor ^ (count + more) := by ring
  · calc c ≤ b * roundingFactor ^ more := second.ge
      _ ≤ a * roundingFactor ^ count * roundingFactor ^ more := by gcongr; exact first.ge
      _ = a * roundingFactor ^ (count + more) := by ring

theorem symm (within : WithinRoundings count a b) : WithinRoundings count b a :=
  ⟨within.ge, within.le⟩

theorem mul (first : WithinRoundings count a b) (second : WithinRoundings more c d)
    (aNonneg : 0 ≤ a) (bNonneg : 0 ≤ b) (cNonneg : 0 ≤ c) (dNonneg : 0 ≤ d) :
    WithinRoundings (count + more) (a * c) (b * d) := by
  have positive := roundingFactor_pos
  constructor
  · calc a * c ≤ (b * roundingFactor ^ count) * (d * roundingFactor ^ more) :=
          mul_le_mul first.le second.le cNonneg (by positivity)
      _ = b * d * roundingFactor ^ (count + more) := by ring
  · calc b * d ≤ (a * roundingFactor ^ count) * (c * roundingFactor ^ more) :=
          mul_le_mul first.ge second.ge dNonneg (by positivity)
      _ = a * c * roundingFactor ^ (count + more) := by ring

theorem inv (within : WithinRoundings count a b) (aPos : 0 < a) (bPos : 0 < b) :
    WithinRoundings count a⁻¹ b⁻¹ := by
  have positive := pow_pos roundingFactor_pos count
  constructor
  · rw [← div_eq_inv_mul, inv_le_iff_one_le_mul₀ aPos, div_mul_eq_mul_div, one_le_div bPos,
      mul_comm]
    exact within.ge
  · rw [← div_eq_inv_mul, inv_le_iff_one_le_mul₀ bPos, div_mul_eq_mul_div, one_le_div aPos,
      mul_comm]
    exact within.le

theorem div (first : WithinRoundings count a b) (second : WithinRoundings more c d)
    (aNonneg : 0 ≤ a) (bNonneg : 0 ≤ b) (cPos : 0 < c) (dPos : 0 < d) :
    WithinRoundings (count + more) (a / c) (b / d) := by
  rw [div_eq_mul_inv, div_eq_mul_inv]
  exact first.mul (second.inv cPos dPos) aNonneg bNonneg (inv_pos.mpr cPos).le
    (inv_pos.mpr dPos).le

/-- A product of two numbers that are counted in units. -/
theorem product {unit : ℚ} (first : WithinRoundings count (a * unit) b)
    (second : WithinRoundings more (c * unit) d) (unitPos : 0 < unit) (aNonneg : 0 ≤ a)
    (bNonneg : 0 ≤ b) (cNonneg : 0 ≤ c) (dNonneg : 0 ≤ d) :
    WithinRoundings (count + more) (a * c * unit) (b * d / unit) := by
  have scaled := (first.mul second (by positivity) bNonneg (by positivity) dNonneg).div
    (.of_eq rfl) (by positivity) (by positivity) unitPos unitPos
  rwa [← mul_assoc, mul_div_cancel_right₀ _ unitPos.ne', mul_right_comm] at scaled

/-- A quotient of two numbers that are counted in units. -/
theorem quotient {unit : ℚ} (first : WithinRoundings count (a * unit) b)
    (second : WithinRoundings more (c * unit) d) (unitPos : 0 < unit) (aNonneg : 0 ≤ a)
    (bNonneg : 0 ≤ b) (cPos : 0 < c) (dPos : 0 < d) :
    WithinRoundings (count + more) (a / c * unit) (b * unit / d) := by
  have scaled := (first.mul (.of_eq (rfl : unit = unit)) (by positivity) bNonneg unitPos.le
    unitPos.le).div second (by positivity) (by positivity) (by positivity) dPos
  rwa [Nat.add_zero, mul_div_mul_right _ _ unitPos.ne', mul_div_right_comm] at scaled

end WithinRoundings

/-- A magnitude has less than 2^53 gaps to its neighbour above. -/
theorem unitsOfMagnitude_mul_lt (magnitude : Nat) :
    unitsOfMagnitude magnitude * (2 ^ 53 + 1) < unitsOfMagnitude (magnitude + 1) * 2 ^ 53 := by
  obtain ⟨shift, place, rfl, low, high⟩ := exists_grid magnitude
  have next := unitsOfMagnitude_grid (show shift = 0 ∨ binade ≤ place + 1 by omega) high
  have places : place * (2 ^ 53 + 1) < (place + 1) * 2 ^ 53 := by
    have : 2 * binade = 2 ^ 53 := rfl
    omega
  rw [unitsOfMagnitude_grid low high.le, Nat.add_assoc, next, Nat.mul_right_comm,
    Nat.mul_right_comm (place + 1)]
  exact Nat.mul_lt_mul_of_pos_right places (Nat.two_pow_pos shift)

/-- From the first normal magnitude on it has at least 2^52 of them. -/
theorem le_unitsOfMagnitude_mul {magnitude : Nat} (normal : binade ≤ magnitude) :
    unitsOfMagnitude (magnitude + 1) * 2 ^ 52 ≤ unitsOfMagnitude magnitude * (2 ^ 52 + 1) := by
  obtain ⟨shift, place, rfl, low, high⟩ := exists_grid magnitude
  have next := unitsOfMagnitude_grid (show shift = 0 ∨ binade ≤ place + 1 by omega) high
  have filled : binade ≤ place := by
    rcases low with rfl | filled
    · simpa using normal
    · exact filled
  have places : (place + 1) * 2 ^ 52 ≤ place * (2 ^ 52 + 1) := by
    have : binade = 2 ^ 52 := rfl
    omega
  rw [unitsOfMagnitude_grid low high.le, Nat.add_assoc, next, Nat.mul_right_comm,
    Nat.mul_right_comm place]
  exact Nat.mul_le_mul_right _ places

/-- One rounding factor takes a middle not as far as the next one. -/
theorem twiceMiddle_mul_lt (magnitude : Nat) :
    twiceMiddle magnitude * roundingFactor < twiceMiddle (magnitude + 1) := by
  have middles : twiceMiddle magnitude * (2 ^ 53 + 1) < twiceMiddle (magnitude + 1) * 2 ^ 53 := by
    cases magnitude with
    | zero => decide
    | succ below =>
      have lower := unitsOfMagnitude_mul_lt below
      have upper := unitsOfMagnitude_mul_lt (below + 1)
      rw [twiceMiddle, twiceMiddle, Nat.add_sub_cancel, Nat.add_sub_cancel, Nat.add_mul,
        Nat.add_mul _ _ (2 ^ 53)]
      exact Nat.add_lt_add lower upper
  have cast : (twiceMiddle magnitude * (2 ^ 53 + 1) : ℚ) <
      twiceMiddle (magnitude + 1) * 2 ^ 53 := by
    exact_mod_cast middles
  rw [roundingFactor]
  linarith

theorem twiceMiddle_mul_pow_le (magnitude count : Nat) :
    twiceMiddle magnitude * roundingFactor ^ count ≤ twiceMiddle (magnitude + count) := by
  induction count with
  | zero => simp
  | succ count ih =>
    have positive := roundingFactor_pos
    calc twiceMiddle magnitude * roundingFactor ^ (count + 1)
        = twiceMiddle magnitude * roundingFactor ^ count * roundingFactor := by ring
      _ ≤ twiceMiddle (magnitude + count) * roundingFactor := by gcongr
      _ ≤ twiceMiddle (magnitude + (count + 1)) := (twiceMiddle_mul_lt _).le

namespace IsNearest

variable {magnitude other count : Nat} {units otherUnits : ℚ}

/-- Numbers some roundings apart have nearest magnitudes that are at most as many places apart. -/
theorem le_add (nearest : IsNearest magnitude units) (otherNearest : IsNearest other otherUnits)
    (within : WithinRoundings count units otherUnits) : magnitude ≤ other + count := by
  cases count with
  | zero =>
    rw [← within.eq_of_zero] at otherNearest
    exact (nearest.unique otherNearest).le
  | succ count =>
    have positive := roundingFactor_pos
    have middles : (twiceMiddle magnitude : ℚ) < twiceMiddle (other + (count + 1) + 1) :=
      calc (twiceMiddle magnitude : ℚ) ≤ 2 * units := nearest.above
        _ ≤ 2 * (otherUnits * roundingFactor ^ (count + 1)) := by gcongr; exact within.le
        _ = 2 * otherUnits * roundingFactor ^ count * roundingFactor := by ring
        _ ≤ twiceMiddle (other + 1) * roundingFactor ^ count * roundingFactor := by
          gcongr
          exact otherNearest.below
        _ ≤ twiceMiddle (other + 1 + count) * roundingFactor := by
          gcongr
          exact twiceMiddle_mul_pow_le _ _
        _ < twiceMiddle (other + 1 + count + 1) := twiceMiddle_mul_lt _
        _ = twiceMiddle (other + (count + 1) + 1) := by
          rw [Nat.add_right_comm other, Nat.add_assoc other]
    have order := twiceMiddle_strictMono.lt_iff_lt.mp (Nat.cast_lt.mp middles)
    omega

theorem binade_le (nearest : IsNearest magnitude units) (normal : 2 ^ 52 ≤ units) :
    binade ≤ magnitude := by
  by_contra small
  have here := unitsOfMagnitude_strictMono (show magnitude < binade by omega)
  have next := unitsOfMagnitude_strictMono.monotone (show magnitude + 1 ≤ binade by omega)
  have first : unitsOfMagnitude binade = 2 ^ 52 := by decide
  have middle : twiceMiddle (magnitude + 1) < 2 * 2 ^ 52 := by
    rw [twiceMiddle, Nat.add_sub_cancel]
    omega
  have cast : (twiceMiddle (magnitude + 1) : ℚ) < 2 * 2 ^ 52 := by exact_mod_cast middle
  linarith [nearest.below]

/-- A number that is not subnormal is one rounding apart from its nearest magnitude. -/
theorem withinRoundings (nearest : IsNearest magnitude units) (normal : 2 ^ 52 ≤ units) :
    WithinRoundings 1 units (unitsOfMagnitude magnitude) := by
  have above := nearest.above
  have below := nearest.below
  have reached := nearest.binade_le normal
  have gapAbove : (unitsOfMagnitude (magnitude + 1) * 2 ^ 52 : ℚ) ≤
      unitsOfMagnitude magnitude * (2 ^ 52 + 1) := by
    exact_mod_cast le_unitsOfMagnitude_mul reached
  rw [twiceMiddle, Nat.cast_add] at above below
  rw [Nat.add_sub_cancel] at below
  constructor
  · rw [roundingFactor, pow_one]
    linarith
  · rw [roundingFactor, pow_one]
    rcases reached.eq_or_lt with rfl | inside
    · have first : (unitsOfMagnitude binade : ℚ) = 2 ^ 52 := by
        exact_mod_cast (show unitsOfMagnitude binade = 2 ^ 52 by decide)
      rw [first]
      linarith
    · have gapBelow := le_unitsOfMagnitude_mul (show binade ≤ magnitude - 1 by omega)
      rw [show magnitude - 1 + 1 = magnitude by omega] at gapBelow
      have cast : (unitsOfMagnitude magnitude * 2 ^ 52 : ℚ) ≤
          unitsOfMagnitude (magnitude - 1) * (2 ^ 52 + 1) := by
        exact_mod_cast gapBelow
      linarith

end IsNearest

end PagedSearch
