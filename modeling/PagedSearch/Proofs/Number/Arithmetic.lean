import PagedSearch.Proofs.Number.Nearest
import PagedSearch.Proofs.Number.Roundings

/-!
# Rounded whole numbers, products and quotients

A whole number of 53 bits, with or without a power of two behind it, is a double as it is
(`Binary64.units_ofNat?_of_few`); any other is one rounding apart from the double it is rounded
to, and so is a power of ten. A product or quotient is rounded once more. It is finite if the
exact number is nearest to a double far enough below the end (`Binary64.exists_nearest?`).
-/
namespace PagedSearch

theorem isNearest_unitsOfMagnitude (magnitude : Nat) :
    IsNearest magnitude (unitsOfMagnitude magnitude) := by
  have above := unitsOfMagnitude_lt_succ magnitude
  cases magnitude with
  | zero =>
    refine (isNearest_zero_iff (Nat.cast_nonneg _)).mpr ?_
    exact_mod_cast (show 2 * unitsOfMagnitude 0 ≤ 1 by decide)
  | succ below =>
    have lower := unitsOfMagnitude_lt_succ below
    refine .of_between ?_ ?_
    · exact_mod_cast (show twiceMiddle (below + 1) < 2 * unitsOfMagnitude (below + 1) by
        rw [twiceMiddle, Nat.add_sub_cancel]
        omega)
    · exact_mod_cast (show 2 * unitsOfMagnitude (below + 1) < twiceMiddle (below + 1 + 1) by
        rw [twiceMiddle, Nat.add_sub_cancel]
        omega)

/-- A whole number of 53 bits with a power of two behind it is the value of a magnitude. -/
theorem exists_unitsOfMagnitude {n : Nat} (few : n ≤ 2 ^ 53) (more : Nat) :
    ∃ magnitude, unitsOfMagnitude magnitude = n * 2 ^ more * unitsPerOne := by
  rcases Nat.eq_zero_or_pos n with rfl | positive
  · exact ⟨0, by simp [unitsOfMagnitude]⟩
  · -- The number is moved up to the binade of 53 bits and counts fewer units there.
    have low : 2 ^ min n.log2 52 ≤ n :=
      (Nat.pow_le_pow_right (by decide) (Nat.min_le_left _ _)).trans
        (Nat.log2_self_le positive.ne')
    have high : n ≤ 2 ^ (min n.log2 52 + 1) := by
      rcases Nat.le_total n.log2 52 with short | long
      · rw [Nat.min_eq_left short]
        exact Nat.lt_log2_self.le
      · rwa [Nat.min_eq_right long]
    have bits := Nat.min_le_right n.log2 52
    generalize min n.log2 52 = width at low high bits
    obtain ⟨rest, sum⟩ := Nat.exists_eq_add_of_le bits
    have atLeast : binade ≤ n * 2 ^ rest :=
      calc binade = 2 ^ width * 2 ^ rest := by rw [← Nat.pow_add, ← sum]; rfl
        _ ≤ n * 2 ^ rest := Nat.mul_le_mul_right _ low
    have atMost : n * 2 ^ rest ≤ 2 * binade :=
      calc n * 2 ^ rest ≤ 2 ^ (width + 1) * 2 ^ rest := Nat.mul_le_mul_right _ high
        _ = 2 * binade := by rw [← Nat.pow_add, Nat.add_right_comm, ← sum]; rfl
    obtain ⟨total, long, units⟩ : ∃ total, 52 ≤ total ∧ unitsPerOne = 2 ^ total :=
      ⟨1074, by omega, by decide +kernel⟩
    obtain ⟨others, rfl⟩ := Nat.exists_eq_add_of_le (show rest ≤ total by omega)
    refine ⟨(more + others) * binade + n * 2 ^ rest, ?_⟩
    rw [unitsOfMagnitude_grid (.inr atLeast) atMost, Nat.pow_add, units, Nat.pow_add]
    ring

namespace Binary64

variable {x y : Binary64} {negative : Bool} {n d : Nat}

theorem cast_unitsPerOne_pos : (0 : ℚ) < unitsPerOne := by
  exact_mod_cast Shortest.unitsPerOne_pos

theorem magnitude_ne_zero (filled : 0 < x.units) : x.magnitude ≠ 0 := by
  intro zero
  rw [units, zero] at filled
  exact absurd filled (by decide)

theorem normal_of_pos (pos : 0 < n) : (2 ^ 52 : ℚ) ≤ n * unitsPerOne := by
  have units : 2 ^ 52 ≤ n * unitsPerOne :=
    (show 2 ^ 52 ≤ unitsPerOne by decide +kernel).trans (Nat.le_mul_of_pos_left _ pos)
  exact_mod_cast units

theorem withinRoundings_ofNat? (rounded : ofNat? negative n = some x) (pos : 0 < n) :
    WithinRoundings 1 (n * unitsPerOne) x.units :=
  (ofNat?_eq_some_iff.mp rounded).2.withinRoundings (normal_of_pos pos)

/-- A whole number of 53 bits with a power of two behind it is not changed. -/
theorem units_ofNat?_of_few {few more : Nat} (rounded : ofNat? negative n = some x)
    (bits : few ≤ 2 ^ 53) (same : n = few * 2 ^ more) : (x.units : ℚ) = n * unitsPerOne := by
  obtain ⟨magnitude, value⟩ := exists_unitsOfMagnitude bits more
  have nearest := isNearest_unitsOfMagnitude magnitude
  rw [value, ← same, Nat.cast_mul] at nearest
  rw [units, (ofNat?_eq_some_iff.mp rounded).2.unique nearest, value, same]
  push_cast
  rfl

/-- A double of the same sign that is at most as many places away. -/
structure Near (count : Nat) (x y : Binary64) : Prop where
  sign : y.negative = x.negative
  le : y.magnitude ≤ x.magnitude + count
  ge : x.magnitude ≤ y.magnitude + count

theorem near_iff {count : Nat} : x.Near count y ↔ y.negative = x.negative ∧
    y.magnitude ≤ x.magnitude + count ∧ x.magnitude ≤ y.magnitude + count :=
  ⟨fun near => ⟨near.sign, near.le, near.ge⟩, fun ⟨sign, le, ge⟩ => ⟨sign, le, ge⟩⟩

instance (count : Nat) (x y : Binary64) : Decidable (x.Near count y) :=
  decidable_of_iff _ near_iff.symm

theorem Near.eq_of_zero (near : Near 0 x y) : y = x :=
  eq_iff.mpr ⟨near.sign, le_antisymm near.le near.ge⟩

theorem Near.mono {count more : Nat} (near : Near count x y) (enough : count ≤ more) :
    Near more x y :=
  ⟨near.sign, near.le.trans (by omega), near.ge.trans (by omega)⟩

section Results

variable {exact : ℚ} {count : Nat} (nearest : IsNearest x.magnitude exact)
  (room : x.magnitude + count < magnitudeBound)

include nearest room

/-- A quotient that is some roundings apart from a number is rounded near the double nearest to
the number. -/
theorem exists_nearest? (pos : 0 < d) (within : WithinRoundings count exact (n / d)) :
    ∃ y, nearest? x.negative n d = some y ∧ x.Near count y := by
  have computed := isNearest_nearestMagnitude n pos
  have upper := computed.le_add nearest within.symm
  exact ⟨⟨x.negative, nearestMagnitude n d, upper.trans_lt room⟩, dif_pos _, rfl, upper,
    nearest.le_add computed within⟩

variable {a b : Binary64} (sign : a.negative = x.negative) (positive : b.negative = false)

include sign positive

theorem exists_mul? (within : WithinRoundings count exact (a.units * b.units / unitsPerOne)) :
    ∃ y, a.mul? b = some y ∧ x.Near count y := by
  rw [mul?, positive, sign, Bool.bne_false]
  exact exists_nearest? nearest room Shortest.unitsPerOne_pos (by exact_mod_cast within)

theorem exists_div? (filled : 0 < b.units)
    (within : WithinRoundings count exact (a.units * unitsPerOne / b.units)) :
    ∃ y, a.div? b = some y ∧ x.Near count y := by
  rw [div?, if_neg (magnitude_ne_zero filled), positive, sign, Bool.bne_false]
  exact exists_nearest? nearest room filled (by exact_mod_cast within)

end Results

/-- A double divided by one that is not below one is rounded to a finite one. -/
theorem exists_div?_of_one_le {a b : Binary64} (positive : b.negative = false)
    (large : unitsPerOne ≤ b.units) :
    ∃ y, a.div? b = some y ∧ y.negative = a.negative ∧
      IsNearest y.magnitude (a.units * unitsPerOne / b.units) := by
  have filled : 0 < b.units := Shortest.unitsPerOne_pos.trans_le large
  have nearest := isNearest_nearestMagnitude (a.units * unitsPerOne) filled
  rw [Nat.cast_mul] at nearest
  have smaller : (a.units * unitsPerOne / b.units : ℚ) ≤ a.units := by
    rw [div_le_iff₀ (by exact_mod_cast filled)]
    exact_mod_cast Nat.mul_le_mul_left a.units large
  have inside := (isNearest_unitsOfMagnitude a.magnitude).lt_last_middle a.finite
  have finite := nearest.finite ((mul_le_mul_of_nonneg_left smaller zero_le_two).trans_lt inside)
  refine ⟨⟨a.negative, _, finite⟩, ?_, rfl, nearest⟩
  rw [div?, if_neg (magnitude_ne_zero filled), positive, Bool.bne_false]
  exact dif_pos finite

end Binary64

end PagedSearch
