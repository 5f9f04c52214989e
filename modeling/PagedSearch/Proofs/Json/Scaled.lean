import PagedSearch.Json.Number
import PagedSearch.Proofs.Number.Arithmetic

/-!
# Scaled numbers

A JSON numeral is read as a number of 64 bits times a power of ten, by one rounding of the
number, one of the power and one of their product or quotient. So what is read is at most as
many places away from the nearest double as results were rounded before the last one
(`Numeral.Scaled.exists_real?`). None was if the number has at most 53 bits and the power is at
most 10^22 either way, and then the nearest double itself is read.
-/
namespace PagedSearch

namespace Binary64

/-- How often a number is rounded to a double: up to 2^53 all whole numbers are doubles. -/
def wholeRoundings (n : Nat) : Nat :=
  if n ≤ 2 ^ 53 then 0 else 1

/-- How often a power of ten is rounded to a double: 10^22 is the last one that is a double. -/
def tenRoundings (exponent : Nat) : Nat :=
  if exponent ≤ 22 then 0 else 1

variable {x : Binary64} {n : Nat}

/-- A double is not less than a double that the number it is nearest to is not less than. -/
theorem units_le_of_nearest {few : Nat} {exact : ℚ} (bits : few ≤ 2 ^ 53)
    (nearest : IsNearest x.magnitude exact) (order : few * unitsPerOne ≤ exact) :
    few * unitsPerOne ≤ x.units := by
  obtain ⟨magnitude, value⟩ := exists_unitsOfMagnitude bits 0
  rw [Nat.pow_zero, Nat.mul_one] at value
  have self := isNearest_unitsOfMagnitude magnitude
  rw [value, Nat.cast_mul] at self
  rw [← value]
  exact unitsOfMagnitude_strictMono.monotone (self.mono nearest order)

theorem within_ofNat? {negative : Bool} (rounded : ofNat? negative n = some x) (pos : 0 < n) :
    WithinRoundings (wholeRoundings n) (n * unitsPerOne) x.units := by
  unfold wholeRoundings
  split
  next few =>
    have same : n = n * 2 ^ 0 := by rw [Nat.pow_zero, Nat.mul_one]
    exact .of_eq (units_ofNat?_of_few rounded few same).symm
  next => exact withinRoundings_ofNat? rounded pos

theorem exists_tenPow? {exponent : Nat} (inside : exponent ≤ 308) :
    ∃ x, tenPow? exponent = some x ∧ x.negative = false ∧ unitsPerOne ≤ x.units ∧
      WithinRoundings (tenRoundings exponent) (10 ^ exponent * unitsPerOne) x.units := by
  have ten : Nat.pow 10 exponent = 10 ^ exponent := Nat.pow_eq
  have pos : 0 < 10 ^ exponent := Nat.pow_pos (by decide)
  have fits : 10 ^ exponent ≤ 10 ^ 308 := pow_le_pow_right₀ (by decide) inside
  obtain ⟨x, rounded⟩ := exists_ofNat? false fits
  obtain ⟨sign, nearest⟩ := ofNat?_eq_some_iff.mp rounded
  have atLeastOne : 1 * unitsPerOne ≤ 10 ^ exponent * unitsPerOne := Nat.mul_le_mul_right _ pos
  have large : 1 * unitsPerOne ≤ x.units :=
    units_le_of_nearest (by decide) nearest (by exact_mod_cast atLeastOne)
  refine ⟨x, by rw [tenPow?, ten, rounded], sign, by rwa [Nat.one_mul] at large, ?_⟩
  rw [← Nat.cast_ofNat (n := 10), ← Nat.cast_pow]
  unfold tenRoundings
  split
  next few =>
    have bits : 5 ^ exponent ≤ 2 ^ 53 :=
      (Nat.pow_le_pow_right (by decide) few).trans (by decide)
    exact .of_eq (units_ofNat?_of_few rounded bits (Nat.mul_pow 5 2 exponent)).symm
  next => exact withinRoundings_ofNat? rounded pos

end Binary64

namespace Numeral

open Binary64 (ofNat? ofNat?_eq_some_iff exists_ofNat? tenPow? wholeRoundings tenRoundings
  within_ofNat? exists_tenPow? units_le_of_nearest exists_mul? exists_div?
  exists_div?_of_one_le Near)

namespace Scaled

/-- The exact number. -/
def value (s : Scaled) : ℚ :=
  s.significand * 10 ^ s.exponent

/-- How many results are rounded before the last one. Below 10^-308 there is one power of ten
and one quotient more. -/
def roundings (s : Scaled) : Nat :=
  wholeRoundings s.significand +
    if -308 ≤ s.exponent then tenRoundings s.exponent.natAbs
    else tenRoundings 308 + 1 + tenRoundings (-s.exponent - 308).toNat

theorem roundings_le (s : Scaled) : s.roundings ≤ 4 := by
  have whole : ∀ n, wholeRoundings n ≤ 1 := fun n => by unfold wholeRoundings; split <;> omega
  have ten : ∀ n, tenRoundings n ≤ 1 := fun n => by unfold tenRoundings; split <;> omega
  have first := whole s.significand
  have second := ten s.exponent.natAbs
  have third := ten 308
  have fourth := ten (-s.exponent - 308).toNat
  unfold roundings
  split <;> omega

/-- A finite double is nearest to numbers below 10^309 only. -/
theorem exponent_le {s : Scaled} {magnitude : Nat} (filled : 0 < s.significand)
    (nearest : IsNearest magnitude (s.value * unitsPerOne)) (finite : magnitude < magnitudeBound) :
    s.exponent ≤ 308 := by
  by_contra large
  have last : (unitsOfMagnitude magnitudeBound : ℚ) ≤ 10 ^ 309 * unitsPerOne := by
    exact_mod_cast (show unitsOfMagnitude magnitudeBound ≤ 10 ^ 309 * unitsPerOne by
      decide +kernel)
  have size : (10 : ℚ) ^ 309 ≤ s.value :=
    calc (10 : ℚ) ^ 309 = 1 * 10 ^ (309 : Int) := by rw [one_mul, zpow_ofNat]
      _ ≤ s.significand * 10 ^ s.exponent := by
        gcongr
        · exact_mod_cast filled
        · norm_num
        · omega
  have beyond := mul_le_mul_of_nonneg_right size Binary64.cast_unitsPerOne_pos.le
  exact absurd (nearest.lt_of_finite finite) (last.trans beyond).not_gt

/-- A magnitude above zero is not nearest to numbers far below one unit. -/
theorem neg_lt_exponent {s : Scaled} {magnitude width : Nat}
    (nearest : IsNearest magnitude (s.value * unitsPerOne)) (positive : 0 < magnitude)
    (wide : s.significand * (2 * unitsPerOne) < 10 ^ width) : -width < s.exponent := by
  have wideCast : (s.significand * (2 * unitsPerOne) : ℚ) < 10 ^ width := by exact_mod_cast wide
  have size : (1 : ℚ) < 10 ^ (s.exponent + width) :=
    calc (1 : ℚ) ≤ 2 * (s.value * unitsPerOne) := nearest.one_le positive
      _ = 10 ^ s.exponent * (s.significand * (2 * unitsPerOne)) := by rw [value]; ring
      _ < 10 ^ s.exponent * 10 ^ width := by gcongr
      _ = 10 ^ (s.exponent + width) := by rw [zpow_add₀ (by norm_num), zpow_natCast]
  have := (one_lt_zpow_iff_right₀ (by norm_num)).mp size
  omega

section Result

variable {s : Scaled} {x : Binary64} {exponent : Nat} (filled : 0 < s.significand)
  (bits : s.significand ≤ significandMax)
  (nearest : IsNearest x.magnitude (s.value * unitsPerOne))
  (room : x.magnitude + s.roundings < magnitudeBound)

include filled bits nearest room

/-- A number times a power of ten. -/
theorem exists_scaleBy?_of_nonneg (same : s.exponent = exponent) (inside : exponent ≤ 308) :
    ∃ y, (ofNat? x.negative s.significand).bind (scaleBy? · s.exponent) = some y ∧
      x.Near s.roundings y := by
  have fits : s.significand ≤ 10 ^ 308 := bits.trans (by decide +kernel)
  obtain ⟨a, rounded⟩ := exists_ofNat? x.negative fits
  obtain ⟨b, power, sign, -, tens⟩ := exists_tenPow? inside
  have count : s.roundings = wholeRoundings s.significand + tenRoundings exponent := by
    rw [roundings, same, if_pos (by omega), Int.natAbs_natCast]
  have within := (within_ofNat? rounded filled).product tens Binary64.cast_unitsPerOne_pos
    (Nat.cast_nonneg _) (Nat.cast_nonneg _) (by positivity) (Nat.cast_nonneg _)
  have exact : s.value = s.significand * 10 ^ exponent := by rw [value, same, zpow_natCast]
  rw [← exact, ← count] at within
  obtain ⟨y, product, near⟩ :=
    exists_mul? nearest room (ofNat?_eq_some_iff.mp rounded).1 sign within
  refine ⟨y, ?_, near⟩
  rw [rounded, Option.bind_some, scaleBy?, if_neg (by omega), if_pos (by omega), same,
    Int.toNat_natCast, power, Option.bind_eq_bind, Option.bind_some, product]

/-- A number divided by a power of ten. -/
theorem exists_scaleBy?_of_neg (same : s.exponent = -exponent) (positive : 0 < exponent)
    (inside : exponent ≤ 308) :
    ∃ y, (ofNat? x.negative s.significand).bind (scaleBy? · s.exponent) = some y ∧
      x.Near s.roundings y := by
  have fits : s.significand ≤ 10 ^ 308 := bits.trans (by decide +kernel)
  obtain ⟨a, rounded⟩ := exists_ofNat? x.negative fits
  obtain ⟨b, power, sign, large, tens⟩ := exists_tenPow? inside
  have count : s.roundings = wholeRoundings s.significand + tenRoundings exponent := by
    rw [roundings, same, if_pos (by omega), Int.natAbs_neg, Int.natAbs_natCast]
  have divisor : 0 < b.units := Shortest.unitsPerOne_pos.trans_le large
  have within := (within_ofNat? rounded filled).quotient tens Binary64.cast_unitsPerOne_pos
    (Nat.cast_nonneg _) (Nat.cast_nonneg _) (by positivity) (Nat.cast_pos.mpr divisor)
  have exact : s.value = s.significand / 10 ^ exponent := by
    rw [value, same, zpow_neg, zpow_natCast, div_eq_mul_inv]
  rw [← exact, ← count] at within
  obtain ⟨y, quotient, near⟩ :=
    exists_div? nearest room (ofNat?_eq_some_iff.mp rounded).1 sign divisor within
  refine ⟨y, ?_, near⟩
  rw [rounded, Option.bind_some, scaleBy?, if_neg (by omega), if_neg (by omega),
    if_pos (by omega), same, Int.neg_neg, Int.toNat_natCast, power, Option.bind_eq_bind,
    Option.bind_some, quotient]

end Result

/-- From 3 on a number divided by 10^308 is not subnormal. -/
theorem normal_of_three_le {a b : Binary64} (three : 3 * unitsPerOne ≤ a.units)
    (power : WithinRoundings 1 (10 ^ 308 * unitsPerOne) b.units) (positive : 0 < b.units) :
    (2 : ℚ) ^ 52 ≤ a.units * unitsPerOne / b.units := by
  have room : (10 ^ 308 * (2 ^ 53 + 1) : ℚ) ≤ 6 * unitsPerOne := by
    exact_mod_cast (show 10 ^ 308 * (2 ^ 53 + 1) ≤ 6 * unitsPerOne by decide +kernel)
  have divisor := power.ge
  have units := Binary64.cast_unitsPerOne_pos
  have threeUnits : (3 * unitsPerOne : ℚ) ≤ a.units := by exact_mod_cast three
  rw [le_div_iff₀ (Nat.cast_pos.mpr positive)]
  generalize (10 : ℚ) ^ 308 = ten at room divisor
  generalize (unitsPerOne : ℚ) = unit at *
  calc 2 ^ 52 * (b.units : ℚ) ≤ 2 ^ 52 * (ten * unit * roundingFactor ^ 1) := by gcongr
    _ = ten * (2 ^ 53 + 1) / 2 * unit := by rw [roundingFactor]; ring
    _ ≤ 6 * unit / 2 * unit := by gcongr
    _ = 3 * unit * unit := by ring
    _ ≤ a.units * unit := by gcongr

/-- A number divided by 10^308 and by another power of ten. -/
theorem exists_scaleBy?_of_far {s : Scaled} {x : Binary64} {exponent : Nat}
    (three : 3 ≤ s.significand) (bits : s.significand ≤ significandMax)
    (nearest : IsNearest x.magnitude (s.value * unitsPerOne))
    (room : x.magnitude + s.roundings < magnitudeBound)
    (same : s.exponent = -(308 + exponent : Nat)) (positive : 0 < exponent)
    (inside : exponent ≤ 308) :
    ∃ y, (ofNat? x.negative s.significand).bind (scaleBy? · s.exponent) = some y ∧
      x.Near s.roundings y := by
  have fits : s.significand ≤ 10 ^ 308 := bits.trans (by decide +kernel)
  obtain ⟨a, rounded⟩ := exists_ofNat? x.negative fits
  obtain ⟨sign, nearestWhole⟩ := ofNat?_eq_some_iff.mp rounded
  obtain ⟨b, power, positiveB, largeB, tensB⟩ := exists_tenPow? (le_refl 308)
  obtain ⟨c, rest, positiveC, largeC, tensC⟩ := exists_tenPow? inside
  obtain ⟨q, small, signQ, nearestQ⟩ := @exists_div?_of_one_le a b positiveB largeB
  have filled : 0 < s.significand := by omega
  have divisorB : 0 < b.units := Shortest.unitsPerOne_pos.trans_le largeB
  have divisorC : 0 < c.units := Shortest.unitsPerOne_pos.trans_le largeC
  have threeUnits : 3 * unitsPerOne ≤ a.units :=
    units_le_of_nearest (by decide) nearestWhole
      (by exact_mod_cast Nat.mul_le_mul_right unitsPerOne three)
  have count : s.roundings = wholeRoundings s.significand + tenRoundings 308 + 1 +
      tenRoundings exponent := by
    rw [roundings, same, if_neg (by omega), show (-(-(308 + exponent : Nat)) - 308 : Int).toNat =
      exponent by omega, ← Nat.add_assoc, ← Nat.add_assoc]
  have units := Binary64.cast_unitsPerOne_pos
  have first := (within_ofNat? rounded filled).quotient tensB units (Nat.cast_nonneg _)
    (Nat.cast_nonneg _) (by positivity) (Nat.cast_pos.mpr divisorB)
  have second := first.trans
    (nearestQ.withinRoundings (normal_of_three_le threeUnits tensB divisorB))
  have within := second.quotient tensC units (by positivity) (Nat.cast_nonneg _)
    (by positivity) (Nat.cast_pos.mpr divisorC)
  have exact : s.value = s.significand / 10 ^ 308 / 10 ^ exponent := by
    rw [value, same, zpow_neg, zpow_natCast, div_div, ← pow_add, div_eq_mul_inv]
  rw [← exact, ← count] at within
  obtain ⟨y, quotient, near⟩ :=
    exists_div? nearest room (signQ.trans sign) positiveC divisorC within
  refine ⟨y, ?_, near⟩
  rw [rounded, Option.bind_some, scaleBy?, if_neg (by omega), if_neg (by omega),
    if_neg (by omega), if_pos (by omega), same,
    show (-(-(308 + exponent : Nat)) - 308 : Int).toNat = exponent by omega, power, rest]
  simp only [Option.bind_eq_bind, Option.bind_some, small, quotient]

/-- The numbers 1 and 2 are subnormal when they are divided by 10^308. Few powers of ten leave
something of them then, so all cases are computed. -/
theorem near_of_subnormal : ∀ negative, ∀ significand ∈ [1, 2], ∀ exponent < 16,
    (do let x ← Binary64.nearest? negative (significand * unitsPerOne)
          (Nat.pow 10 (308 + exponent))
        let y ← (ofNat? negative significand).bind (scaleBy? · (-(308 + exponent : Nat)))
        return decide (x.Near 2 y)) = some true := by
  decide +kernel

theorem exists_scaleBy?_of_subnormal {s : Scaled} {x : Binary64} {exponent : Nat}
    (few : s.significand ∈ [1, 2]) (nearest : IsNearest x.magnitude (s.value * unitsPerOne))
    (same : s.exponent = -(308 + exponent : Nat)) (positive : 0 < exponent)
    (inside : exponent < 16) :
    ∃ y, (ofNat? x.negative s.significand).bind (scaleBy? · s.exponent) = some y ∧
      x.Near s.roundings y := by
  have computed := near_of_subnormal x.negative s.significand few exponent inside
  simp only [Option.bind_eq_bind, Option.bind_eq_some_iff, Option.pure_def,
    Option.some.injEq, decide_eq_true_eq, ← same] at computed
  obtain ⟨other, rounded, y, ⟨a, whole, read⟩, near⟩ := computed
  have exact : ((s.significand * unitsPerOne : Nat) : ℚ) / (Nat.pow 10 (308 + exponent) : Nat) =
      s.value * unitsPerOne := by
    rw [value, same, zpow_neg, zpow_natCast, Shortest.cast_tenPow, Nat.cast_mul, div_eq_mul_inv,
      mul_right_comm]
  have divisor : 0 < Nat.pow 10 (308 + exponent) := Nat.pow_pos (by decide)
  obtain ⟨sign, nearestOther⟩ := (Binary64.nearest?_eq_some_iff divisor).mp rounded
  rw [exact] at nearestOther
  obtain rfl := Binary64.eq_iff.mpr ⟨sign, nearestOther.unique nearest⟩
  have wholes : ∀ n ∈ [1, 2], wholeRoundings n = 0 := by decide
  have count : s.roundings = 2 := by
    rw [roundings, wholes _ few, if_neg (by omega), same,
      show (-(-(308 + exponent : Nat)) - 308 : Int).toNat = exponent by omega, tenRoundings,
      tenRoundings, if_neg (by decide), if_pos (by omega)]
  exact ⟨y, Option.bind_eq_some_iff.mpr ⟨a, whole, read⟩, count ▸ near⟩

/-- What a number of 64 bits with a power of ten is read as is at most as many places away from
the nearest double as results were rounded before the last one. -/
theorem exists_real? {s : Scaled} {x : Binary64} (filled : 0 < s.significand)
    (bits : s.significand ≤ significandMax)
    (nearest : IsNearest x.magnitude (s.value * unitsPerOne)) (positive : 0 < x.magnitude)
    (room : x.magnitude + 4 < magnitudeBound) :
    ∃ y, (ofNat? x.negative s.significand).bind (scaleBy? · s.exponent) = some y ∧
      x.Near s.roundings y := by
  have enough : x.magnitude + s.roundings < magnitudeBound :=
    (Nat.add_le_add_left s.roundings_le _).trans_lt room
  rcases Int.lt_or_le s.exponent 0 with divided | multiplied
  · rcases Int.lt_or_le s.exponent (-308) with far | once
    · obtain ⟨exponent, same⟩ := Int.eq_ofNat_of_zero_le (show 0 ≤ -s.exponent - 308 by omega)
      have opposite : s.exponent = -(308 + exponent : Nat) := by omega
      rcases Nat.lt_or_ge s.significand 3 with few | three
      · have member : s.significand ∈ [1, 2] := by
          simp only [List.mem_cons, List.not_mem_nil, or_false]
          omega
        have wide : s.significand * (2 * unitsPerOne) < 10 ^ 324 :=
          (Nat.mul_le_mul_right _ (show s.significand ≤ 2 by omega)).trans_lt (by decide +kernel)
        have size := neg_lt_exponent nearest positive wide
        exact exists_scaleBy?_of_subnormal member nearest opposite (by omega) (by omega)
      · have wide : s.significand * (2 * unitsPerOne) < 10 ^ 344 :=
          (Nat.mul_le_mul_right _ bits).trans_lt (by decide +kernel)
        have size := neg_lt_exponent nearest positive wide
        exact exists_scaleBy?_of_far three bits nearest enough opposite (by omega) (by omega)
    · obtain ⟨exponent, same⟩ := Int.eq_ofNat_of_zero_le (show 0 ≤ -s.exponent by omega)
      have opposite : s.exponent = -exponent := by omega
      exact exists_scaleBy?_of_neg filled bits nearest enough opposite (by omega) (by omega)
  · obtain ⟨exponent, same⟩ := Int.eq_ofNat_of_zero_le multiplied
    have upper := exponent_le filled nearest x.finite
    exact exists_scaleBy?_of_nonneg filled bits nearest enough same (by omega)

end Scaled

end Numeral

end PagedSearch
