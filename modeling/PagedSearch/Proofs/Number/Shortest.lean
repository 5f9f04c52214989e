import PagedSearch.Number.Shortest
import PagedSearch.Proofs.Number.Literal
import Mathlib.Data.List.TakeWhile

/-!
# Shortest digits read back

Seventeen digits tell all doubles apart: a decimal grid of that many digits is finer than
the gap below a double, which is the narrower of its two gaps, so that one neighbour of
the double on the grid is nearer to it than the middles are (`isSome_onGrid?`). So the
search for the shortest digits comes to an end, and the double is nearest to the
decimal number that it finds (`shortestDigits_nearest`).
-/
namespace PagedSearch

/-- The gap below a magnitude is not wider than the one above, and the magnitude has at most
2^53 of it. At the beginning of a binade the gap below is half of the one above. -/
theorem exists_gap {magnitude : Nat} (pos : 0 < magnitude) :
    ∃ gap, unitsOfMagnitude (magnitude - 1) + gap = unitsOfMagnitude magnitude ∧
      unitsOfMagnitude magnitude + gap ≤ unitsOfMagnitude (magnitude + 1) ∧
      unitsOfMagnitude magnitude ≤ 2 ^ 53 * gap := by
  obtain ⟨shift, place, rfl, low, high⟩ := exists_grid magnitude
  have here := unitsOfMagnitude_grid low high.le
  have next := unitsOfMagnitude_grid (show shift = 0 ∨ binade ≤ place + 1 by omega) high
  rw [← Nat.add_assoc] at next
  have width : place * 2 ^ shift ≤ 2 ^ 53 * 2 ^ shift :=
    Nat.mul_le_mul_right _ (high.le.trans (by decide))
  by_cases inner : shift = 0 ∨ binade < place
  · have filled : 0 < place := by
      rcases inner with first | inside
      · rwa [first, Nat.zero_mul, Nat.zero_add] at pos
      · exact binade_pos.trans inside
    obtain ⟨before, rfl⟩ : ∃ before, place = before + 1 := ⟨place - 1, by omega⟩
    have previous := unitsOfMagnitude_grid (show shift = 0 ∨ binade ≤ before by omega)
      (show before ≤ 2 * binade by omega)
    refine ⟨2 ^ shift, ?_, ?_, here ▸ width⟩
    · rw [← Nat.add_assoc, Nat.add_sub_cancel, previous, Nat.add_assoc, here]
      ring
    · rw [here, next]
      exact le_of_eq (by ring)
  · obtain rfl : place = binade := by omega
    obtain ⟨lower, rfl⟩ : ∃ lower, shift = lower + 1 := ⟨shift - 1, by omega⟩
    have previous := unitsOfMagnitude_grid (show lower = 0 ∨ binade ≤ 2 * binade - 1 by omega)
      (show 2 * binade - 1 ≤ 2 * binade by omega)
    have place : (lower + 1) * binade + binade - 1 = lower * binade + (2 * binade - 1) := by
      rw [Nat.add_mul]
      have := binade_pos
      omega
    refine ⟨2 ^ lower, ?_, ?_, ?_⟩
    · rw [place, previous, here, Nat.pow_succ]
      have step : (2 * binade - 1) * 2 ^ lower + 2 ^ lower = 2 * binade * 2 ^ lower := by
        rw [← Nat.succ_mul]
        rfl
      rw [step]
      ring
    · rw [here, next, Nat.pow_succ]
      have := Nat.two_pow_pos lower
      nlinarith
    · rw [here, Nat.pow_succ]
      exact le_of_eq (by rw [show 2 ^ 53 = binade * 2 from rfl]; ring)

/-- A magnitude is nearest to what lies strictly between the middles, be it even or odd. -/
theorem IsNearest.of_between {magnitude : Nat} {units : ℚ}
    (lower : (twiceMiddle magnitude : ℚ) < 2 * units)
    (upper : 2 * units < twiceMiddle (magnitude + 1)) : IsNearest magnitude units := by
  refine ⟨lower.le, upper.le, ?_⟩
  rintro (middle | middle)
  · exact absurd middle lower.ne'
  · exact absurd middle upper.ne

namespace Shortest

variable {magnitude n : Nat} {step : Int}

theorem unitsPerOne_pos : 0 < unitsPerOne := by
  decide +kernel

theorem stepSize_pos (step : Int) : 0 < stepSize step :=
  Nat.mul_pos (Nat.mul_pos (by decide) unitsPerOne_pos) (Nat.pow_pos (by decide))

theorem cast_tenPow (exponent : Nat) : ((Nat.pow 10 exponent : Nat) : ℚ) = 10 ^ exponent := by
  rw [Nat.pow_eq, Nat.cast_pow, Nat.cast_ofNat]

theorem cast_scaleUp (halfUnits : Nat) (step : Int) :
    (scaleUp halfUnits step : ℚ) = halfUnits * 10 ^ (-step).toNat := by
  rw [scaleUp, Nat.cast_mul, cast_tenPow]

/-- Twice a decimal, in units, over the denominator of the scaled half units. -/
theorem cast_mul_stepSize (n : Nat) (step : Int) :
    ((n * stepSize step : Nat) : ℚ) =
      2 * (n * 10 ^ step * unitsPerOne) * 10 ^ (-step).toNat := by
  have cancel : (10 : ℚ) ^ step * 10 ^ (-step).toNat = 10 ^ step.toNat := by
    rw [ten_zpow_eq, div_mul_cancel₀ _ (by positivity)]
  calc ((n * stepSize step : Nat) : ℚ) = 2 * (n * 10 ^ step.toNat * unitsPerOne) := by
        rw [stepSize]
        push_cast [Nat.pow_eq]
        ring
    _ = 2 * (n * 10 ^ step * unitsPerOne) * 10 ^ (-step).toNat := by
        rw [← cancel]
        ring

/-- Both sides of a comparison with a decimal are brought to one denominator. -/
theorem scaleUp_le_iff (halfUnits : Nat) :
    scaleUp halfUnits step ≤ n * stepSize step ↔
      (halfUnits : ℚ) ≤ 2 * (n * 10 ^ step * unitsPerOne) := by
  have denominator : (0 : ℚ) < 10 ^ (-step).toNat := by positivity
  rw [← @Nat.cast_le ℚ, cast_scaleUp, cast_mul_stepSize,
    mul_le_mul_iff_of_pos_right denominator]

theorem le_scaleUp_iff (halfUnits : Nat) :
    n * stepSize step ≤ scaleUp halfUnits step ↔
      2 * (n * 10 ^ step * unitsPerOne) ≤ (halfUnits : ℚ) := by
  have denominator : (0 : ℚ) < 10 ^ (-step).toNat := by positivity
  rw [← @Nat.cast_le ℚ, cast_scaleUp, cast_mul_stepSize,
    mul_le_mul_iff_of_pos_right denominator]

/-- A decimal rounds to the magnitudes that are nearest to it. -/
theorem roundsTo_iff :
    roundsTo magnitude step n = true ↔ IsNearest magnitude (n * 10 ^ step * unitsPerOne) := by
  have below : unitsOfMagnitude magnitude + unitsOfMagnitude (magnitude - 1) =
      twiceMiddle magnitude := Nat.add_comm _ _
  have above : unitsOfMagnitude magnitude + unitsOfMagnitude (magnitude + 1) =
      twiceMiddle (magnitude + 1) := rfl
  unfold roundsTo
  dsimp only
  rw [below, above]
  split
  next even =>
    simp only [Bool.and_eq_true, decide_eq_true_eq, scaleUp_le_iff, le_scaleUp_iff]
    exact ⟨fun between => ⟨between.1, between.2, fun _ => even⟩,
      fun nearest => ⟨nearest.above, nearest.below⟩⟩
  next odd =>
    simp only [Bool.and_eq_true, decide_eq_true_eq, ← not_le, scaleUp_le_iff, le_scaleUp_iff]
    simp only [not_le]
    refine ⟨fun between => .of_between between.1 between.2, fun nearest => ?_⟩
    refine ⟨lt_of_le_of_ne nearest.above fun middle => odd ?_,
      lt_of_le_of_ne nearest.below fun middle => odd ?_⟩
    · exact nearest.even_of_middle (.inl middle.symm)
    · exact nearest.even_of_middle (.inr middle)

theorem roundsTo_of_onGrid? {tie : Tie} (found : onGrid? tie magnitude step = some n) :
    roundsTo magnitude step n = true := by
  unfold onGrid? at found
  dsimp only at found
  split at found
  next => cases found
  next rounds _ => cases found; exact rounds
  next _ rounds => cases found; exact rounds
  next below above =>
    obtain rfl := Option.some.inj found
    split
    next => exact above
    next => exact below

/-- The search on a grid finds a neighbour of the value that rounds to the magnitude. -/
theorem isSome_onGrid? {tie : Tie}
    (neighbour : n = scaleUp (2 * unitsOfMagnitude magnitude) step / stepSize step ∨
      n = scaleUp (2 * unitsOfMagnitude magnitude) step / stepSize step + 1)
    (rounds : roundsTo magnitude step n = true) : (onGrid? tie magnitude step).isSome = true := by
  unfold onGrid?
  dsimp only
  split
  next below above =>
    rcases neighbour with rfl | rfl
    · exact absurd rounds (by rw [below]; decide)
    · exact absurd rounds (by rw [above]; decide)
  next => rfl
  next => rfl
  next => rfl

/-- Of the two multiples of a step around a number one is at most half a step away. -/
theorem exists_half_step (value : Nat) {size : Nat} (pos : 0 < size) :
    ∃ n, (n = value / size ∨ n = value / size + 1) ∧
      2 * (n * size) ≤ 2 * value + size ∧ 2 * value ≤ 2 * (n * size) + size := by
  have split := Nat.div_add_mod value size
  have rest := Nat.mod_lt value pos
  rw [Nat.mul_comm] at split
  rcases Nat.le_total (2 * (value % size)) size with down | up
  · exact ⟨value / size, .inl rfl, by omega, by omega⟩
  · have next : (value / size + 1) * size = value / size * size + size := Nat.succ_mul _ _
    exact ⟨value / size + 1, .inr rfl, by omega, by omega⟩

/-- A grid with a step below the gap has a neighbour of the value between the middles. -/
theorem exists_roundsTo {gap : Nat}
    (below : unitsOfMagnitude (magnitude - 1) + gap = unitsOfMagnitude magnitude)
    (above : unitsOfMagnitude magnitude + gap ≤ unitsOfMagnitude (magnitude + 1))
    (fine : 10 ^ step * unitsPerOne < (gap : ℚ)) :
    ∃ n, (n = scaleUp (2 * unitsOfMagnitude magnitude) step / stepSize step ∨
      n = scaleUp (2 * unitsOfMagnitude magnitude) step / stepSize step + 1) ∧
      roundsTo magnitude step n = true := by
  obtain ⟨n, neighbour, lower, upper⟩ :=
    exists_half_step (scaleUp (2 * unitsOfMagnitude magnitude) step) (stepSize_pos step)
  refine ⟨n, neighbour, roundsTo_iff.mpr ?_⟩
  have denominator : (0 : ℚ) < 10 ^ (-step).toNat := by positivity
  have size := cast_mul_stepSize 1 step
  rw [Nat.one_mul, Nat.cast_one, one_mul] at size
  have notAbove : 2 * (n * 10 ^ step * unitsPerOne) ≤
      2 * unitsOfMagnitude magnitude + 10 ^ step * (unitsPerOne : ℚ) := by
    refine le_of_mul_le_mul_right ?_ denominator
    have cast : (2 * (n * stepSize step : Nat) : ℚ) ≤
        2 * scaleUp (2 * unitsOfMagnitude magnitude) step + stepSize step := by
      exact_mod_cast lower
    rw [cast_mul_stepSize, cast_scaleUp, size] at cast
    push_cast at cast
    linarith
  have notBelow : 2 * unitsOfMagnitude magnitude ≤
      2 * (n * 10 ^ step * unitsPerOne) + 10 ^ step * (unitsPerOne : ℚ) := by
    refine le_of_mul_le_mul_right ?_ denominator
    have cast : (2 * scaleUp (2 * unitsOfMagnitude magnitude) step : ℚ) ≤
        2 * (n * stepSize step : Nat) + stepSize step := by
      exact_mod_cast upper
    rw [cast_mul_stepSize, cast_scaleUp, size] at cast
    push_cast at cast
    linarith
  have belowCast : (unitsOfMagnitude (magnitude - 1) + gap : ℚ) = unitsOfMagnitude magnitude := by
    exact_mod_cast below
  have aboveCast : (unitsOfMagnitude magnitude + gap : ℚ) ≤ unitsOfMagnitude (magnitude + 1) := by
    exact_mod_cast above
  refine .of_between ?_ ?_
  · rw [twiceMiddle]
    push_cast
    linarith
  · rw [twiceMiddle, Nat.add_sub_cancel]
    push_cast
    linarith

theorem pow_le_of_decimal {n : Nat} (pos : 0 < n) :
    10 ^ ((Text.decimal n).length - 1) ≤ n := by
  rcases Nat.eq_zero_or_pos ((Text.decimal n).length - 1) with one | more
  · rw [one]
    exact pos
  · have long : ¬ (Text.decimal n).length ≤ (Text.decimal n).length - 1 := by omega
    exact Nat.le_of_not_lt fun less =>
      long ((Nat.length_toDigits_le_iff (by decide) more).mpr less)

/-- The digits of a value that is shifted to a whole number tell its size. -/
theorem pow_length_decimal_le {units width : Nat}
    (filled : 0 < units * Nat.pow 10 width / unitsPerOne) :
    (10 : ℚ) ^ ((Text.decimal (units * Nat.pow 10 width / unitsPerOne)).length - width - 1 : Int) *
      unitsPerOne ≤ units := by
  have digits := pow_le_of_decimal filled
  have some_digit := List.length_pos_of_ne_nil
    (Text.decimal_ne_nil (units * Nat.pow 10 width / unitsPerOne))
  generalize (Text.decimal (units * Nat.pow 10 width / unitsPerOne)).length = length at *
  have exponent : (length - width - 1 : Int) + width = (length - 1 : Nat) := by omega
  have denominator : (0 : ℚ) < 10 ^ width := by positivity
  refine le_of_mul_le_mul_right ?_ denominator
  calc (10 : ℚ) ^ (length - width - 1 : Int) * unitsPerOne * 10 ^ width
      = 10 ^ ((length - width - 1 : Int) + width) * unitsPerOne := by
        rw [zpow_add₀ (by norm_num), zpow_natCast, mul_right_comm]
    _ = ((10 ^ (length - 1) * unitsPerOne : Nat) : ℚ) := by
        rw [exponent, zpow_natCast]
        push_cast
        rfl
    _ ≤ (units * Nat.pow 10 width : Nat) :=
        Nat.cast_le.mpr ((Nat.le_div_iff_mul_le unitsPerOne_pos).mp digits)
    _ = units * 10 ^ width := by rw [Nat.cast_mul, cast_tenPow]

theorem pointOf_eq (units : Nat) : pointOf units =
    (Text.decimal (units * Nat.pow 10 400 / unitsPerOne)).length - ((400 : Nat) : Int) :=
  rfl

/-- The first digit of a positive value stands just before the place of its point. -/
theorem pow_pointOf_le {units : Nat} (pos : 0 < units) :
    (10 : ℚ) ^ (pointOf units - 1) * unitsPerOne ≤ units := by
  have shifted : unitsPerOne ≤ units * Nat.pow 10 400 :=
    calc unitsPerOne ≤ Nat.pow 10 400 := by decide +kernel
      _ ≤ units * Nat.pow 10 400 := Nat.le_mul_of_pos_left _ pos
  rw [pointOf_eq]
  -- The bound holds for any number of places; a variable keeps the power from being evaluated.
  generalize 400 = places at *
  exact pow_length_decimal_le (Nat.div_pos shifted unitsPerOne_pos)

theorem lt_pow_length_decimal (units width : Nat) :
    (units : ℚ) < 10 * (10 ^ ((Text.decimal (units * Nat.pow 10 width / unitsPerOne)).length -
      width - 1 : Int) * unitsPerOne) := by
  have number := Text.digitsValue_lt fun c =>
    Text.isDigit_of_mem_decimal (n := units * Nat.pow 10 width / unitsPerOne) (c := c)
  rw [Text.digitsValue_decimal, Nat.div_lt_iff_lt_mul unitsPerOne_pos] at number
  generalize (Text.decimal (units * Nat.pow 10 width / unitsPerOne)).length = length at *
  have denominator : (0 : ℚ) < 10 ^ width := by positivity
  refine lt_of_mul_lt_mul_right ?_ denominator.le
  calc (units : ℚ) * 10 ^ width = (units * Nat.pow 10 width : Nat) := by
        rw [Nat.cast_mul, cast_tenPow]
    _ < (10 ^ length * unitsPerOne : Nat) := Nat.cast_lt.mpr number
    _ = 10 ^ (1 + (length - width - 1 : Int) + width) * unitsPerOne := by
        rw [show 1 + (length - width - 1 : Int) + width = length by omega, zpow_natCast]
        push_cast
        rfl
    _ = 10 * (10 ^ (length - width - 1 : Int) * unitsPerOne) * 10 ^ width := by
        rw [zpow_add₀ (by norm_num), zpow_one_add₀ (by norm_num), zpow_natCast]
        ring

/-- No digit stands before the place of the point. -/
theorem lt_pow_pointOf (units : Nat) :
    (units : ℚ) < 10 * (10 ^ (pointOf units - 1) * unitsPerOne) := by
  rw [pointOf_eq]
  generalize 400 = places
  exact lt_pow_length_decimal units places

/-- A neighbour of the value on a grid of some digits has at most as many, or is the next power
of ten. -/
theorem le_pow_of_onGrid? {tie : Tie} {width : Nat}
    (found : onGrid? tie magnitude (pointOf (unitsOfMagnitude magnitude) - width) = some n) :
    n ≤ 10 ^ width := by
  generalize grid : pointOf (unitsOfMagnitude magnitude) - width = step at found
  have below : scaleUp (2 * unitsOfMagnitude magnitude) step / stepSize step < 10 ^ width := by
    rw [Nat.div_lt_iff_lt_mul (stepSize_pos step), ← not_le, le_scaleUp_iff, not_le]
    have size := lt_pow_pointOf (unitsOfMagnitude magnitude)
    have digits : (10 : ℚ) * 10 ^ (pointOf (unitsOfMagnitude magnitude) - 1) =
        10 ^ width * 10 ^ step := by
      rw [← zpow_one_add₀ (by norm_num), ← zpow_natCast, ← zpow_add₀ (by norm_num)]
      congr 1
      omega
    rw [← mul_assoc, digits] at size
    push_cast
    linarith
  have neighbour : n ≤ scaleUp (2 * unitsOfMagnitude magnitude) step / stepSize step + 1 := by
    unfold onGrid? at found
    dsimp only at found
    split at found
    next => cases found
    next => cases found; exact Nat.le_succ _
    next => cases found; exact le_refl _
    next =>
      obtain rfl := Option.some.inj found
      split
      next => exact le_refl _
      next => exact Nat.le_succ _
  omega

/-- Seventeen digits are enough: the value has more than 10^16 steps of their grid, and no more
than 2^53 gaps. -/
theorem seventeen_digits_fine {units gap : Nat} (pos : 0 < units) (gaps : units ≤ 2 ^ 53 * gap) :
    (10 : ℚ) ^ (pointOf units - 17) * unitsPerOne < gap := by
  have size := pow_pointOf_le pos
  have exponent : pointOf units - 1 = pointOf units - 17 + 16 := by omega
  rw [exponent, zpow_add₀ (by norm_num)] at size
  have gapsCast : (units : ℚ) ≤ 2 ^ 53 * gap := by exact_mod_cast gaps
  have step : (0 : ℚ) < 10 ^ (pointOf units - 17) * unitsPerOne :=
    mul_pos (by positivity) (by exact_mod_cast unitsPerOne_pos)
  by_contra coarse
  have many : (10 ^ (pointOf units - 17) * unitsPerOne) * 10 ^ 16 ≤ (2 ^ 53 : ℚ) * gap :=
    calc (10 ^ (pointOf units - 17) * unitsPerOne) * (10 : ℚ) ^ 16
        = 10 ^ (pointOf units - 17) * 10 ^ (16 : Int) * unitsPerOne := by
          rw [zpow_ofNat, mul_right_comm]
      _ ≤ units := size
      _ ≤ 2 ^ 53 * gap := gapsCast
  linarith

/-- Some count of digits up to seventeen has a decimal that reads back. -/
theorem shortestDigits_eq_digitsOf (tie : Tie) {magnitude : Nat} (pos : 0 < magnitude) :
    ∃ n step, roundsTo magnitude step n = true ∧ n ≤ 10 ^ 17 ∧
      shortestDigits tie magnitude = digitsOf n step := by
  obtain ⟨gap, below, above, gaps⟩ := exists_gap pos
  have positive : 0 < unitsOfMagnitude magnitude :=
    (Nat.zero_le _).trans_lt (unitsOfMagnitude_strictMono pos)
  obtain ⟨n, neighbour, rounds⟩ :=
    exists_roundsTo below above (seventeen_digits_fine positive gaps)
  have last := @isSome_onGrid? magnitude n _ tie neighbour rounds
  unfold shortestDigits
  dsimp only
  cases search : (List.range 17).findSome? (fun count : Nat =>
      (onGrid? tie magnitude (pointOf (unitsOfMagnitude magnitude) - (count + 1 : Nat))).map
        fun n => digitsOf n (pointOf (unitsOfMagnitude magnitude) - (count + 1 : Nat))) with
  | none =>
    have missing := List.findSome?_eq_none_iff.mp search 16 (by decide)
    rw [Option.map_eq_none_iff] at missing
    exact absurd last (by rw [show (17 : Int) = (16 + 1 : Nat) from rfl, missing]; decide)
  | some digits =>
    obtain ⟨count, member, grid⟩ := List.exists_of_findSome?_eq_some search
    obtain ⟨n, found, rfl⟩ := Option.map_eq_some_iff.mp grid
    have few : 10 ^ (count + 1) ≤ 10 ^ 17 :=
      Nat.pow_le_pow_right (by decide) (List.mem_range.mp member)
    exact ⟨n, _, roundsTo_of_onGrid? found, (le_pow_of_onGrid? found).trans few, rfl⟩

end Shortest

namespace DecimalDigits

/-- The exact number that the digits denote. -/
def value (d : DecimalDigits) : ℚ :=
  Text.digitsValue d.digits * 10 ^ (d.point - d.digits.length)

end DecimalDigits

namespace Shortest

theorem exists_zeros (digits : List Char) :
    ∃ count, digits =
      (digits.reverse.dropWhile (· = '0')).reverse ++ List.replicate count '0' := by
  have zeros : digits.reverse.takeWhile (· = '0') =
      List.replicate (digits.reverse.takeWhile (· = '0')).length '0' :=
    List.eq_replicate_of_mem fun c member => by simpa using List.mem_takeWhile_imp member
  have whole : digits.reverse.takeWhile (· = '0') ++ digits.reverse.dropWhile (· = '0') =
      digits.reverse := List.takeWhile_append_dropWhile
  refine ⟨(digits.reverse.takeWhile (· = '0')).length, ?_⟩
  rw [← List.reverse_replicate, ← zeros, ← List.reverse_append, whole, List.reverse_reverse]

/-- The zeros at the end of a number count as powers of ten. -/
theorem value_digitsOf (n : Nat) (step : Int) : (digitsOf n step).value = n * 10 ^ step := by
  obtain ⟨count, decimal⟩ := exists_zeros (Text.decimal n)
  have number := Text.digitsValue_decimal n
  have length := congrArg List.length decimal
  rw [decimal, Text.digitsValue_append, Text.digitsValue_zeros, Nat.add_zero,
    List.length_replicate] at number
  rw [List.length_append, List.length_replicate] at length
  simp only [digitsOf, DecimalDigits.value]
  generalize ((Text.decimal n).reverse.dropWhile (· = '0')).reverse = kept at *
  have exponent : step + ((Text.decimal n).length : Int) - kept.length = count + step := by
    omega
  rw [exponent, zpow_add₀ (by norm_num), zpow_natCast, ← number]
  push_cast
  ring

/-- The digits of a number up to 10^17 without the zeros at their end are at most seventeen, and
begin with another digit than zero. -/
theorem digitsOf_digits {n : Nat} (positive : 0 < n) (few : n ≤ 10 ^ 17) (step : Int) :
    (digitsOf n step).digits.length ≤ 17 ∧ (digitsOf n step).digits.head? ≠ some '0' := by
  obtain ⟨count, decimal⟩ := exists_zeros (Text.decimal n)
  have same : (digitsOf n step).digits =
      ((Text.decimal n).reverse.dropWhile (· = '0')).reverse := rfl
  rw [← same] at decimal
  constructor
  · rcases few.eq_or_lt with rfl | less
    · rw [same]
      decide
    · have length := (Nat.length_toDigits_le_iff (by decide) (show 0 < 17 by decide)).mpr less
      rw [← Text.decimal.eq_def, decimal, List.length_append] at length
      omega
  · intro zero
    refine Text.head?_decimal_ne_zero positive ?_
    rw [decimal, List.head?_append, zero, Option.some_or]

end Shortest

/-- A double is nearest to the decimal number that it is written with. -/
theorem shortestDigits_nearest (tie : Tie) {magnitude : Nat} (pos : 0 < magnitude) :
    IsNearest magnitude ((shortestDigits tie magnitude).value * unitsPerOne) := by
  obtain ⟨n, step, rounds, -, same⟩ := Shortest.shortestDigits_eq_digitsOf tie pos
  rw [same, Shortest.value_digitsOf]
  exact Shortest.roundsTo_iff.mp rounds

theorem shortestDigits_ne_nil (tie : Tie) {magnitude : Nat} (pos : 0 < magnitude) :
    (shortestDigits tie magnitude).digits ≠ [] := by
  intro empty
  have zero : (shortestDigits tie magnitude).value = 0 := by
    rw [DecimalDigits.value, empty]
    simp [Text.digitsValue]
  exact (shortestDigits_nearest tie pos).ne_zero pos zero

theorem shortestDigits_digits (tie : Tie) {magnitude : Nat} (pos : 0 < magnitude) :
    (shortestDigits tie magnitude).digits.length ≤ 17 ∧
      (shortestDigits tie magnitude).digits.head? ≠ some '0' := by
  obtain ⟨n, step, rounds, few, same⟩ := Shortest.shortestDigits_eq_digitsOf tie pos
  have filled : 0 < n := by
    rw [Nat.pos_iff_ne_zero]
    rintro rfl
    exact (Shortest.roundsTo_iff.mp rounds).ne_zero pos (by rw [Nat.cast_zero, zero_mul])
  rw [same]
  exact Shortest.digitsOf_digits filled few step

end PagedSearch
