import PagedSearch.Number.Rounding
import Mathlib.Algebra.Order.Field.Rat
import Mathlib.Order.Monotone.Basic
import Mathlib.Tactic.Linarith
import Mathlib.Tactic.Ring

/-!
# The nearest magnitude

What rounding means, said without a word of how it is computed: a magnitude is nearest
to a number of units if the number lies between the middles of the gaps to the two
neighbours, and on such a middle only if the magnitude is even (`IsNearest`). One
magnitude is nearest to a number (`IsNearest.unique`), and it is the one that is computed
(`nearestMagnitude_eq_iff`). So what a quotient is rounded to depends on its value alone.
-/
namespace PagedSearch

theorem binade_pos : 0 < binade := by decide

/-- The value of a place on the grid of a binade. Both ends belong to the grid, so the end
of a binade is a place on two grids. -/
theorem unitsOfMagnitude_grid {shift place : Nat} (low : shift = 0 ∨ binade ≤ place)
    (high : place ≤ 2 * binade) :
    unitsOfMagnitude (shift * binade + place) = place * 2 ^ shift := by
  have pos := binade_pos
  have quotient : (shift * binade + place) / binade = place / binade + shift := by
    rw [Nat.add_comm, Nat.add_mul_div_right _ _ pos]
  simp only [unitsOfMagnitude, quotient, Nat.pow_eq]
  rcases Nat.lt_or_ge place binade with below | above
  · obtain rfl : shift = 0 := by omega
    simp [Nat.div_eq_of_lt below]
  · rcases Nat.lt_or_ge place (2 * binade) with inside | atEnd
    · have one : place / binade = 1 := Nat.div_eq_of_lt_le (by omega) (by omega)
      rw [one, Nat.add_sub_cancel_left, Nat.add_sub_cancel_left]
    · obtain rfl : place = 2 * binade := by omega
      have two : 2 * binade / binade = 2 := Nat.mul_div_cancel _ pos
      have shifted : 2 + shift - 1 = shift + 1 := by omega
      have place : shift * binade + 2 * binade - (shift + 1) * binade = binade := by
        rw [← Nat.add_mul, ← Nat.sub_mul, show shift + 2 - (shift + 1) = 1 by omega, Nat.one_mul]
      rw [two, shifted, place]
      ring

/-- Every magnitude is a place on the grid of its binade, before the end of it. -/
theorem exists_grid (magnitude : Nat) :
    ∃ shift place, magnitude = shift * binade + place ∧ (shift = 0 ∨ binade ≤ place) ∧
      place < 2 * binade := by
  have pos := binade_pos
  have split := Nat.div_add_mod magnitude binade
  have rest := Nat.mod_lt magnitude pos
  rw [Nat.mul_comm] at split
  cases index : magnitude / binade with
  | zero =>
    rw [index] at split
    exact ⟨0, magnitude, by omega, .inl rfl, by omega⟩
  | succ shift =>
    rw [index, Nat.succ_mul] at split
    exact ⟨shift, binade + magnitude % binade, by omega, .inr (by omega), by omega⟩

theorem unitsOfMagnitude_lt_succ (magnitude : Nat) :
    unitsOfMagnitude magnitude < unitsOfMagnitude (magnitude + 1) := by
  obtain ⟨shift, place, rfl, low, high⟩ := exists_grid magnitude
  rw [unitsOfMagnitude_grid low high.le, Nat.add_assoc,
    unitsOfMagnitude_grid (by omega) high]
  exact Nat.mul_lt_mul_of_pos_right (Nat.lt_succ_self place) (Nat.two_pow_pos shift)

theorem unitsOfMagnitude_strictMono : StrictMono unitsOfMagnitude :=
  strictMono_nat_of_lt_succ unitsOfMagnitude_lt_succ

/-- Twice the middle between a magnitude and the one below it, in units. -/
def twiceMiddle (magnitude : Nat) : Nat :=
  unitsOfMagnitude (magnitude - 1) + unitsOfMagnitude magnitude

theorem twiceMiddle_strictMono : StrictMono twiceMiddle := by
  refine strictMono_nat_of_lt_succ fun magnitude => ?_
  have below := unitsOfMagnitude_strictMono.monotone (Nat.sub_le magnitude 1)
  have above := unitsOfMagnitude_lt_succ magnitude
  simp only [twiceMiddle, Nat.add_sub_cancel]
  omega

/-- No magnitude is nearer to a number of units, and only an even one is as near as another. -/
structure IsNearest (magnitude : Nat) (units : ℚ) : Prop where
  above : twiceMiddle magnitude ≤ 2 * units
  below : 2 * units ≤ twiceMiddle (magnitude + 1)
  even_of_middle : 2 * units = twiceMiddle magnitude ∨ 2 * units = twiceMiddle (magnitude + 1) →
    magnitude % 2 = 0

/-- Of two magnitudes that share a middle one is odd. -/
theorem IsNearest.le {first second : Nat} {units : ℚ} (nearest : IsNearest first units)
    (other : IsNearest second units) : second ≤ first := by
  by_contra higher
  have order : twiceMiddle (first + 1) ≤ twiceMiddle second :=
    twiceMiddle_strictMono.monotone (by omega)
  have between : (twiceMiddle (first + 1) : ℚ) ≤ twiceMiddle second := by exact_mod_cast order
  have upper : 2 * units = twiceMiddle (first + 1) :=
    le_antisymm nearest.below (between.trans other.above)
  have lower : 2 * units = twiceMiddle second :=
    le_antisymm (nearest.below.trans between) other.above
  have next : first + 1 = second :=
    twiceMiddle_strictMono.injective (by exact_mod_cast upper.symm.trans lower)
  have firstEven := nearest.even_of_middle (.inr upper)
  have secondEven := other.even_of_middle (.inl lower)
  omega

theorem IsNearest.unique {first second : Nat} {units : ℚ} (nearest : IsNearest first units)
    (other : IsNearest second units) : first = second :=
  le_antisymm (other.le nearest) (nearest.le other)

theorem IsNearest.mono {first second : Nat} {units more : ℚ} (nearest : IsNearest first units)
    (other : IsNearest second more) (order : units ≤ more) : first ≤ second := by
  rcases order.eq_or_lt with rfl | less
  · exact (nearest.unique other).le
  · have middles : (twiceMiddle first : ℚ) < twiceMiddle (second + 1) :=
      calc (twiceMiddle first : ℚ) ≤ 2 * units := nearest.above
        _ < 2 * more := mul_lt_mul_of_pos_left less zero_lt_two
        _ ≤ twiceMiddle (second + 1) := other.below
    exact Nat.lt_succ_iff.mp (twiceMiddle_strictMono.lt_iff_lt.mp (Nat.cast_lt.mp middles))

/-- Only nothing is nearest to less than half a unit. -/
theorem IsNearest.one_le {magnitude : Nat} {units : ℚ} (nearest : IsNearest magnitude units)
    (positive : 0 < magnitude) : 1 ≤ 2 * units := by
  have middle : 1 ≤ twiceMiddle magnitude :=
    (show 1 ≤ twiceMiddle 1 by decide).trans (twiceMiddle_strictMono.monotone positive)
  exact le_trans (by exact_mod_cast middle) nearest.above

theorem IsNearest.ne_zero {magnitude : Nat} {value unit : ℚ}
    (nearest : IsNearest magnitude (value * unit)) (positive : 0 < magnitude) : value ≠ 0 := by
  rintro rfl
  have size := nearest.one_le positive
  rw [zero_mul, mul_zero] at size
  exact size.not_gt zero_lt_one

/-- The rounded quotient is at most half away, and exactly half away only if it is even. -/
theorem roundHalfEven_middle (n : Nat) {d : Nat} (pos : 0 < d) :
    2 * (roundHalfEven n d * d) ≤ 2 * n + d ∧ 2 * n ≤ 2 * (roundHalfEven n d * d) + d ∧
      (2 * (roundHalfEven n d * d) = 2 * n + d ∨ 2 * n = 2 * (roundHalfEven n d * d) + d →
        roundHalfEven n d % 2 = 0) := by
  have split := Nat.div_add_mod n d
  have rest := Nat.mod_lt n pos
  rw [Nat.mul_comm] at split
  unfold roundHalfEven
  dsimp only
  split
  next down => omega
  next up =>
    have next : (n / d + 1) * d = n / d * d + d := Nat.succ_mul _ _
    omega

/-- The binade of a quotient, or the lowest one, has a place for it. -/
theorem quotient_on_grid (n : Nat) {d : Nat} (pos : 0 < d) :
    n < 2 * binade * (d * 2 ^ ((n / d).log2 - 52)) ∧
      ((n / d).log2 - 52 = 0 ∨ binade * (d * 2 ^ ((n / d).log2 - 52)) ≤ n) := by
  have bound : n < 2 ^ ((n / d).log2 + 1) * d :=
    (Nat.div_lt_iff_lt_mul pos).mp Nat.lt_log2_self
  constructor
  · calc n < 2 ^ ((n / d).log2 + 1) * d := bound
      _ ≤ 2 ^ (53 + ((n / d).log2 - 52)) * d :=
        Nat.mul_le_mul_right d (Nat.pow_le_pow_right (by decide) (by omega))
      _ = 2 * binade * (d * 2 ^ ((n / d).log2 - 52)) := by
        rw [Nat.pow_add, show 2 ^ 53 = 2 * binade from rfl, Nat.mul_comm d, Nat.mul_assoc]
  · rcases Nat.lt_or_ge (n / d).log2 52 with small | large
    · exact .inl (by omega)
    · have filled : n / d ≠ 0 := by
        intro zero
        rw [zero] at large
        exact absurd large (by decide)
      refine .inr ?_
      calc binade * (d * 2 ^ ((n / d).log2 - 52))
          = 2 ^ (52 + ((n / d).log2 - 52)) * d := by
            rw [Nat.pow_add, show 2 ^ 52 = binade from rfl, Nat.mul_comm d, Nat.mul_assoc]
        _ = 2 ^ (n / d).log2 * d := by rw [Nat.add_sub_cancel' large]
        _ ≤ n / d * d := Nat.mul_le_mul_right d (Nat.log2_self_le filled)
        _ ≤ n := Nat.div_mul_le_self n d

section Grid

variable {n d shift place : Nat}

/-- The middle above a place is half a step away. At the end of the binade the step is a longer
one, but there the quotient is below the place. -/
theorem middle_above (inside : n < 2 * binade * (d * 2 ^ shift))
    (low : shift = 0 ∨ binade ≤ place) (high : place ≤ 2 * binade) :
    twiceMiddle (shift * binade + place + 1) * d =
        2 * (place * (d * 2 ^ shift)) + d * 2 ^ shift ∨
      2 * n < twiceMiddle (shift * binade + place + 1) * d := by
  have here := unitsOfMagnitude_grid low high
  rcases Nat.lt_or_ge place (2 * binade) with before | atEnd
  · have next := unitsOfMagnitude_grid (show shift = 0 ∨ binade ≤ place + 1 by omega) before
    rw [← Nat.add_assoc] at next
    rw [twiceMiddle, Nat.add_sub_cancel, here, next]
    exact .inl (by ring)
  · obtain rfl : place = 2 * binade := by omega
    have step := unitsOfMagnitude_lt_succ (shift * binade + 2 * binade)
    refine .inr ?_
    calc 2 * n < 2 * (2 * binade * (d * 2 ^ shift)) := by omega
      _ = (2 * unitsOfMagnitude (shift * binade + 2 * binade)) * d := by rw [here]; ring
      _ ≤ twiceMiddle (shift * binade + 2 * binade + 1) * d := by
        rw [twiceMiddle, Nat.add_sub_cancel]
        exact Nat.mul_le_mul_right d (by omega)

/-- The middle below a place is half a step away. At the beginning of the binade the step is a
shorter one, but there the quotient is not below the place. -/
theorem middle_below (pos : 0 < d) (reached : shift = 0 ∨ binade * (d * 2 ^ shift) ≤ n)
    (low : shift = 0 ∨ binade ≤ place) (high : place ≤ 2 * binade) :
    twiceMiddle (shift * binade + place) * d + d * 2 ^ shift = 2 * (place * (d * 2 ^ shift)) ∨
      twiceMiddle (shift * binade + place) * d < 2 * n ∨ shift * binade + place = 0 := by
  have here := unitsOfMagnitude_grid low high
  cases place with
  | zero =>
    have first : shift = 0 := low.resolve_right (by have := binade_pos; omega)
    exact .inr (.inr (by rw [first, Nat.zero_mul]))
  | succ place =>
    by_cases inner : shift = 0 ∨ binade ≤ place
    · have previous := unitsOfMagnitude_grid inner (show place ≤ 2 * binade by omega)
      rw [twiceMiddle, here, ← Nat.add_assoc, Nat.add_sub_cancel, previous]
      exact .inl (by ring)
    · have start : place + 1 = binade := by omega
      have step := unitsOfMagnitude_lt_succ (shift * binade + place)
      rw [Nat.add_assoc, here] at step
      refine .inr (.inl ?_)
      calc twiceMiddle (shift * binade + (place + 1)) * d
          < (2 * ((place + 1) * 2 ^ shift)) * d := by
            rw [twiceMiddle, here, ← Nat.add_assoc, Nat.add_sub_cancel]
            exact Nat.mul_lt_mul_of_pos_right (by omega) pos
        _ = 2 * (binade * (d * 2 ^ shift)) := by rw [start]; ring
        _ ≤ 2 * n := Nat.mul_le_mul_left 2 (reached.resolve_left (by omega))

/-- The rounded place of a quotient is a place on the grid. -/
theorem place_on_grid (pos : 0 < d) (inside : n < 2 * binade * (d * 2 ^ shift))
    (reached : shift = 0 ∨ binade * (d * 2 ^ shift) ≤ n) :
    (shift = 0 ∨ binade ≤ roundHalfEven n (d * 2 ^ shift)) ∧
      roundHalfEven n (d * 2 ^ shift) ≤ 2 * binade := by
  have step_pos : 0 < d * 2 ^ shift := Nat.mul_pos pos (Nat.two_pow_pos shift)
  obtain ⟨lower, upper, -⟩ := roundHalfEven_middle n step_pos
  constructor
  · refine reached.imp_right fun reached => ?_
    by_contra small
    have less : (roundHalfEven n (d * 2 ^ shift) + 1) * (d * 2 ^ shift) ≤
        binade * (d * 2 ^ shift) := Nat.mul_le_mul_right _ (by omega)
    rw [Nat.add_mul, Nat.one_mul] at less
    omega
  · by_contra large
    have more : (2 * binade + 1) * (d * 2 ^ shift) ≤
        roundHalfEven n (d * 2 ^ shift) * (d * 2 ^ shift) := Nat.mul_le_mul_right _ (by omega)
    rw [Nat.add_mul, Nat.one_mul] at more
    omega

end Grid

theorem nearestMagnitude_middle (n : Nat) {d : Nat} (pos : 0 < d) :
    twiceMiddle (nearestMagnitude n d) * d ≤ 2 * n ∧
      2 * n ≤ twiceMiddle (nearestMagnitude n d + 1) * d ∧
      (2 * n = twiceMiddle (nearestMagnitude n d) * d ∨
        2 * n = twiceMiddle (nearestMagnitude n d + 1) * d → nearestMagnitude n d % 2 = 0) := by
  obtain ⟨inside, reached⟩ := quotient_on_grid n pos
  have computed : nearestMagnitude n d = ((n / d).log2 - 52) * binade +
      roundHalfEven n (d * 2 ^ ((n / d).log2 - 52)) := rfl
  rw [computed]
  generalize (n / d).log2 - 52 = shift at *
  obtain ⟨lower, upper, tie⟩ :=
    roundHalfEven_middle n (Nat.mul_pos pos (Nat.two_pow_pos shift))
  obtain ⟨low, high⟩ := place_on_grid pos inside reached
  have even_shift : shift * binade = 2 * (shift * 2 ^ 51) := by
    rw [show binade = 2 * 2 ^ 51 from rfl]
    ring
  have above := middle_above inside low high
  rcases middle_below pos reached low high with half_step | clear | zero
  · omega
  · omega
  · rw [zero] at above ⊢
    have place_zero : roundHalfEven n (d * 2 ^ shift) = 0 := by omega
    rw [place_zero] at above upper
    rw [show twiceMiddle 0 = 0 from rfl]
    omega

theorem isNearest_nearestMagnitude (n : Nat) {d : Nat} (pos : 0 < d) :
    IsNearest (nearestMagnitude n d) (n / d) := by
  obtain ⟨above, below, tie⟩ := nearestMagnitude_middle n pos
  have positive : (0 : ℚ) < d := by exact_mod_cast pos
  refine ⟨?_, ?_, ?_⟩
  · rw [← mul_div_assoc, le_div_iff₀ positive]
    exact_mod_cast above
  · rw [← mul_div_assoc, div_le_iff₀ positive]
    exact_mod_cast below
  · rw [← mul_div_assoc, div_eq_iff positive.ne', div_eq_iff positive.ne']
    exact_mod_cast tie

theorem nearestMagnitude_eq_iff {n d magnitude : Nat} (pos : 0 < d) :
    nearestMagnitude n d = magnitude ↔ IsNearest magnitude (n / d) :=
  ⟨fun same => same ▸ isNearest_nearestMagnitude n pos,
    (isNearest_nearestMagnitude n pos).unique⟩

end PagedSearch
