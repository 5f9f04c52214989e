import PagedSearch.Proofs.Number.Grammar
import PagedSearch.Proofs.Number.Shortest

/-!
# Rounding by distance

What a literal is rounded to, said with distances on the number line: the double has the sign
of the literal, no double is nearer to the exact number, and if another one is equally near
then the last place is even (`DecimalLiteral.RoundsTo`). A literal has such a double exactly
if it is below 2^1024 - 2^970, the middle between the largest double and the power of two
behind it (`DecimalLiteral.exists_roundsTo_iff`). Two doubles of different magnitude have a
middle, and a number is nearer to the one on its own side of it.
-/
namespace PagedSearch

section Middle

variable {a b u : ℚ} (order : a < b)

include order

theorem abs_sub_right_le_iff : |u - b| ≤ |u - a| ↔ a + b ≤ 2 * u := by
  constructor
  · intro near
    rcases abs_cases (u - a) with ⟨same, -⟩ | ⟨same, -⟩
    · linarith [neg_le_abs (u - b)]
    · linarith [neg_le_abs (u - b)]
  · intro middle
    rw [abs_of_nonneg (show 0 ≤ u - a by linarith)]
    exact abs_le.mpr ⟨by linarith, by linarith⟩

theorem abs_sub_left_le_iff : |u - a| ≤ |u - b| ↔ 2 * u ≤ a + b := by
  constructor
  · intro near
    rcases abs_cases (u - b) with ⟨same, -⟩ | ⟨same, -⟩
    · linarith [le_abs_self (u - a)]
    · linarith [le_abs_self (u - a)]
  · intro middle
    rw [abs_of_nonpos (show u - b ≤ 0 by linarith)]
    exact abs_le.mpr ⟨by linarith, by linarith⟩

theorem abs_sub_eq_iff : |u - a| = |u - b| ↔ 2 * u = a + b := by
  rw [le_antisymm_iff, le_antisymm_iff, abs_sub_left_le_iff order, abs_sub_right_le_iff order]

end Middle

section Distance

variable {magnitude other : Nat} {units : ℚ}

theorem cast_unitsOfMagnitude_lt (less : magnitude < other) :
    (unitsOfMagnitude magnitude : ℚ) < unitsOfMagnitude other := by
  exact_mod_cast unitsOfMagnitude_strictMono less

/-- The nearest middle below a magnitude is the one to its neighbour. -/
theorem add_le_twiceMiddle (below : other < magnitude) :
    (unitsOfMagnitude other + unitsOfMagnitude magnitude : ℚ) ≤ twiceMiddle magnitude := by
  have neighbour := unitsOfMagnitude_strictMono.monotone (show other ≤ magnitude - 1 by omega)
  rw [twiceMiddle, Nat.cast_add]
  gcongr

theorem twiceMiddle_le_add (above : magnitude < other) :
    (twiceMiddle (magnitude + 1) : ℚ) ≤ unitsOfMagnitude magnitude + unitsOfMagnitude other := by
  have neighbour := unitsOfMagnitude_strictMono.monotone (show magnitude + 1 ≤ other from above)
  rw [twiceMiddle, Nat.add_sub_cancel, Nat.cast_add]
  gcongr

theorem IsNearest.abs_sub_le (nearest : IsNearest magnitude units) (other : Nat) :
    |units - unitsOfMagnitude magnitude| ≤ |units - unitsOfMagnitude other| := by
  rcases Nat.lt_trichotomy other magnitude with below | rfl | above
  · exact (abs_sub_right_le_iff (cast_unitsOfMagnitude_lt below)).mpr
      ((add_le_twiceMiddle below).trans nearest.above)
  · exact le_refl _
  · exact (abs_sub_left_le_iff (cast_unitsOfMagnitude_lt above)).mpr
      (nearest.below.trans (twiceMiddle_le_add above))

theorem IsNearest.even_of_tie (nearest : IsNearest magnitude units)
    (tie : |units - unitsOfMagnitude magnitude| = |units - unitsOfMagnitude other|) :
    other = magnitude ∨ magnitude % 2 = 0 := by
  rcases Nat.lt_trichotomy other magnitude with below | rfl | above
  · have middle := (abs_sub_eq_iff (cast_unitsOfMagnitude_lt below)).mp tie.symm
    have lower := middle ▸ add_le_twiceMiddle below
    exact .inr (nearest.even_of_middle (.inl (le_antisymm lower nearest.above)))
  · exact .inl rfl
  · have middle := (abs_sub_eq_iff (cast_unitsOfMagnitude_lt above)).mp tie
    have upper := middle ▸ twiceMiddle_le_add above
    exact .inr (nearest.even_of_middle (.inr (le_antisymm nearest.below upper)))

/-- Every number has a nearest magnitude, finite or not. -/
theorem exists_isNearest (nonneg : 0 ≤ units) : ∃ magnitude, IsNearest magnitude units := by
  have nearest := isNearest_nearestMagnitude units.num.toNat units.den_pos
  have numerator : ((units.num.toNat : Nat) : ℚ) = units.num := by
    exact_mod_cast Int.toNat_of_nonneg (Rat.num_nonneg.mpr nonneg)
  rw [numerator, Rat.num_div_den] at nearest
  exact ⟨_, nearest⟩

/-- A finite magnitude that a number is nearest to lies before the last middle, as the last
finite magnitude is odd. -/
theorem IsNearest.lt_last_middle (nearest : IsNearest magnitude units)
    (finite : magnitude < magnitudeBound) : 2 * units < twiceMiddle magnitudeBound := by
  have even : magnitudeBound % 2 = 0 := by decide +kernel
  have middles : (twiceMiddle (magnitude + 1) : ℚ) ≤ twiceMiddle magnitudeBound :=
    Nat.cast_le.mpr (twiceMiddle_strictMono.monotone finite)
  refine lt_of_le_of_ne (nearest.below.trans middles) fun last => ?_
  have here : 2 * units = twiceMiddle (magnitude + 1) :=
    le_antisymm nearest.below (middles.trans last.ge)
  have ended : magnitude + 1 = magnitudeBound :=
    twiceMiddle_strictMono.injective (Nat.cast_injective (here.symm.trans last))
  have lastEven := nearest.even_of_middle (.inr here)
  omega

/-- Before the last middle, the distances to the finite magnitudes tell the nearest one. -/
theorem isNearest_iff_of_finite (finite : magnitude < magnitudeBound) (nonneg : 0 ≤ units) :
    IsNearest magnitude units ↔ 2 * units < twiceMiddle magnitudeBound ∧
      ∀ other < magnitudeBound,
        |units - unitsOfMagnitude magnitude| ≤ |units - unitsOfMagnitude other| ∧
        (|units - unitsOfMagnitude magnitude| = |units - unitsOfMagnitude other| →
          other = magnitude ∨ magnitude % 2 = 0) := by
  constructor
  · intro nearest
    exact ⟨nearest.lt_last_middle finite,
      fun other _ => ⟨nearest.abs_sub_le other, nearest.even_of_tie⟩⟩
  · rintro ⟨inside, distances⟩
    have lower : twiceMiddle magnitude ≤ 2 * units ∧
        (2 * units = twiceMiddle magnitude → magnitude % 2 = 0) := by
      cases magnitude with
      | zero =>
        rw [show twiceMiddle 0 = 0 from rfl, Nat.cast_zero]
        exact ⟨mul_nonneg zero_le_two nonneg, fun _ => rfl⟩
      | succ below =>
        have order := cast_unitsOfMagnitude_lt (Nat.lt_succ_self below)
        obtain ⟨near, tie⟩ := distances below (by omega)
        rw [twiceMiddle, Nat.add_sub_cancel, Nat.cast_add]
        exact ⟨(abs_sub_right_le_iff order).mp near,
          fun middle => (tie ((abs_sub_eq_iff order).mpr middle).symm).resolve_left (by omega)⟩
    have upper : 2 * units ≤ twiceMiddle (magnitude + 1) ∧
        (2 * units = twiceMiddle (magnitude + 1) → magnitude % 2 = 0) := by
      rcases Nat.lt_or_ge (magnitude + 1) magnitudeBound with before | atEnd
      · have order := cast_unitsOfMagnitude_lt (Nat.lt_succ_self magnitude)
        obtain ⟨near, tie⟩ := distances (magnitude + 1) before
        rw [twiceMiddle, Nat.add_sub_cancel, Nat.cast_add]
        exact ⟨(abs_sub_left_le_iff order).mp near,
          fun middle => (tie ((abs_sub_eq_iff order).mpr middle)).resolve_left (by omega)⟩
      · have last : magnitude + 1 = magnitudeBound := by omega
        rw [last]
        exact ⟨inside.le, fun middle => absurd middle inside.ne⟩
    exact ⟨lower.1, upper.1, fun middle => middle.elim lower.2 upper.2⟩

end Distance

namespace Binary64

/-- The absolute value. -/
def size (x : Binary64) : ℚ :=
  x.units / unitsPerOne

theorem abs_sub_size (value : ℚ) (x : Binary64) :
    |value - x.size| * unitsPerOne = |value * unitsPerOne - x.units| := by
  have positive : (0 : ℚ) < unitsPerOne := by exact_mod_cast Shortest.unitsPerOne_pos
  rw [← abs_of_pos positive, ← abs_mul, abs_of_pos positive, sub_mul, size,
    div_mul_cancel₀ _ positive.ne']

theorem size_lt (x : Binary64) : x.size < 2 ^ 1024 := by
  have positive : (0 : ℚ) < unitsPerOne := by exact_mod_cast Shortest.unitsPerOne_pos
  have bound : unitsOfMagnitude magnitudeBound = 2 ^ 1024 * unitsPerOne := by decide +kernel
  have below : x.units < 2 ^ 1024 * unitsPerOne := bound ▸ unitsOfMagnitude_strictMono x.finite
  rw [size, div_lt_iff₀ positive]
  exact_mod_cast below

end Binary64

namespace DecimalLiteral

/-- The double that a literal is rounded to: no double is nearer to the exact number, and if
another one is equally near then the last place is even. The literal is before the middle of the
largest double and 2^1024, from where on it would be rounded to no finite double. -/
structure RoundsTo (l : DecimalLiteral) (x : Binary64) : Prop where
  sign : x.negative = l.negative
  inRange : l.value < 2 ^ 1024 - 2 ^ 970
  nearest : ∀ y : Binary64, |l.value - x.size| ≤ |l.value - y.size|
  even_of_tie : ∀ y : Binary64, |l.value - x.size| = |l.value - y.size| →
    y.magnitude = x.magnitude ∨ x.magnitude % 2 = 0

variable {l : DecimalLiteral} {x : Binary64}

theorem twiceMiddle_bound :
    (twiceMiddle magnitudeBound : ℚ) = 2 * ((2 ^ 1024 - 2 ^ 970) * unitsPerOne) := by
  have middles : twiceMiddle magnitudeBound + 2 * (2 ^ 970 * unitsPerOne) =
      2 * (2 ^ 1024 * unitsPerOne) := by
    decide +kernel
  have cast := congrArg (Nat.cast : Nat → ℚ) middles
  rw [Nat.cast_add, Nat.cast_mul, Nat.cast_mul, Nat.cast_mul, Nat.cast_mul, Nat.cast_pow,
    Nat.cast_pow, Nat.cast_ofNat] at cast
  rw [sub_mul, mul_sub]
  exact eq_sub_of_add_eq cast

theorem inRange_iff :
    l.value < 2 ^ 1024 - 2 ^ 970 ↔ 2 * (l.value * unitsPerOne) < twiceMiddle magnitudeBound := by
  have positive : (0 : ℚ) < unitsPerOne := by exact_mod_cast Shortest.unitsPerOne_pos
  rw [twiceMiddle_bound, mul_lt_mul_iff_of_pos_left zero_lt_two,
    mul_lt_mul_iff_of_pos_right positive]

/-- A literal is rounded to the double of its sign with the nearest magnitude. -/
theorem roundsTo_iff :
    l.RoundsTo x ↔ x.negative = l.negative ∧ IsNearest x.magnitude (l.value * unitsPerOne) := by
  have positive : (0 : ℚ) < unitsPerOne := by exact_mod_cast Shortest.unitsPerOne_pos
  have nonneg : 0 ≤ l.value * unitsPerOne := mul_nonneg l.value_nonneg positive.le
  have near : ∀ y : Binary64, |l.value - x.size| ≤ |l.value - y.size| ↔
      |l.value * unitsPerOne - x.units| ≤ |l.value * unitsPerOne - y.units| := fun y => by
    rw [← Binary64.abs_sub_size, ← Binary64.abs_sub_size, mul_le_mul_iff_of_pos_right positive]
  have tie : ∀ y : Binary64, |l.value - x.size| = |l.value - y.size| ↔
      |l.value * unitsPerOne - x.units| = |l.value * unitsPerOne - y.units| := fun y => by
    rw [← Binary64.abs_sub_size, ← Binary64.abs_sub_size, mul_left_inj' positive.ne']
  rw [isNearest_iff_of_finite x.finite nonneg]
  constructor
  · rintro ⟨sign, inRange, nearest, even_of_tie⟩
    refine ⟨sign, inRange_iff.mp inRange, fun other finite => ?_⟩
    exact ⟨(near ⟨false, other, finite⟩).mp (nearest _),
      fun same => even_of_tie _ ((tie ⟨false, other, finite⟩).mpr same)⟩
  · rintro ⟨sign, inRange, distances⟩
    exact ⟨sign, inRange_iff.mpr inRange, fun y => (near y).mpr (distances _ y.finite).1,
      fun y same => (distances _ y.finite).2 ((tie y).mp same)⟩

/-- A literal is rounded to a double if it is in range. -/
theorem exists_roundsTo_iff : (∃ x, l.RoundsTo x) ↔ l.value < 2 ^ 1024 - 2 ^ 970 := by
  constructor
  · rintro ⟨x, rounds⟩
    exact rounds.inRange
  · intro inRange
    have nonneg : 0 ≤ l.value * unitsPerOne := mul_nonneg l.value_nonneg (Nat.cast_nonneg _)
    obtain ⟨magnitude, nearest⟩ := exists_isNearest nonneg
    have finite := nearest.finite (inRange_iff.mp inRange)
    exact ⟨⟨l.negative, magnitude, finite⟩, roundsTo_iff.mpr ⟨rfl, nearest⟩⟩

end DecimalLiteral

end PagedSearch
