import PagedSearch.Proofs.Text.Digits

/-!
# Order of texts

Texts are ordered by code points, the first place where they differ deciding. Two texts
whose front parts have one length are ordered by these parts, and by the rest only if the
parts agree (`compare_append`). So numbers that are written with one width are ordered as
texts as they are as numbers (`compare_decimalPadded`): both ways the first digit that
differs decides.
-/
namespace PagedSearch

theorem compare_natCast (m n : Nat) : compare (m : Int) (n : Int) = compare m n := by
  rcases Nat.lt_trichotomy m n with below | rfl | above
  · rw [Nat.compare_eq_lt.mpr below, Int.compare_eq_lt.mpr (by omega)]
  · rw [Nat.compare_eq_eq.mpr rfl, Int.compare_eq_eq.mpr rfl]
  · rw [Nat.compare_eq_gt.mpr above, Int.compare_eq_gt.mpr (by omega)]

section Places

variable {size i j : Nat} (first : i < size) (second : j < size)

include first second

/-- Two numbers with a small number behind each are ordered by the numbers, and by what is
behind them if these agree. -/
theorem compare_places (a b : Int) :
    compare (a * size + i) (b * size + j) = (compare a b).then (compare i j) := by
  have nonneg := Int.natCast_nonneg size
  rcases Int.lt_trichotomy a b with below | rfl | above
  · have step : (a + 1) * size ≤ b * size := Int.mul_le_mul_of_nonneg_right below nonneg
    rw [Int.add_mul] at step
    rw [Int.compare_eq_lt.mpr below, Int.compare_eq_lt.mpr (by omega), Ordering.lt_then]
  · rw [Int.compare_eq_eq.mpr rfl, Ordering.eq_then]
    rcases Nat.lt_trichotomy i j with less | rfl | more
    · rw [Nat.compare_eq_lt.mpr less, Int.compare_eq_lt.mpr (by omega)]
    · rw [Nat.compare_eq_eq.mpr rfl, Int.compare_eq_eq.mpr rfl]
    · rw [Nat.compare_eq_gt.mpr more, Int.compare_eq_gt.mpr (by omega)]
  · have step : (b + 1) * size ≤ a * size := Int.mul_le_mul_of_nonneg_right above nonneg
    rw [Int.add_mul] at step
    rw [Int.compare_eq_gt.mpr above, Int.compare_eq_gt.mpr (by omega), Ordering.gt_then]

theorem compare_natPlaces (a b : Nat) :
    compare (a * size + i) (b * size + j) = (compare a b).then (compare i j) := by
  rw [← compare_natCast, ← compare_natCast a b, ← compare_places first second]
  rfl

end Places

namespace Text

theorem compare_char (c d : Char) : compare c d = compare c.toNat d.toNat := by
  have less : ∀ a b : Char, a < b ↔ a.toNat < b.toNat := fun _ _ => UInt32.lt_iff_toNat_lt
  change compareOfLessAndEq c d = _
  unfold compareOfLessAndEq
  simp only [less, Char.toNat_inj.symm]
  rfl

theorem compare_eq_lt_iff {s t : List Char} : compare s t = .lt ↔ s < t := by
  induction s generalizing t with
  | nil => cases t <;> simp [List.compare_nil_cons]
  | cons c s ih =>
    cases t with
    | nil => simp [List.compare_cons_nil]
    | cons d t =>
      rw [List.compare_cons_cons, Ordering.then_eq_lt, ih, List.cons_lt_cons_iff, compare_char,
        Nat.compare_eq_lt, Nat.compare_eq_eq, Char.toNat_inj]
      rfl

/-- The order of texts is that of their characters. -/
theorem compare_ofList (s t : List Char) :
    compare (String.ofList s) (String.ofList t) = compare s t := by
  have less : String.ofList s < String.ofList t ↔ compare s t = .lt := by
    rw [compare_eq_lt_iff]
    change (String.ofList s).toList < (String.ofList t).toList ↔ _
    rw [String.toList_ofList, String.toList_ofList]
  change compareOfLessAndEq (String.ofList s) (String.ofList t) = _
  unfold compareOfLessAndEq
  simp only [less, String.ofList_inj, ← Std.compare_eq_iff_eq (a := s)]
  cases compare s t <;> rfl

section Fronts

variable {front other : List Char} (same : front.length = other.length)

include same

theorem compare_append (rest last : List Char) :
    compare (front ++ rest) (other ++ last) = (compare front other).then (compare rest last) := by
  induction front generalizing other with
  | nil =>
    obtain rfl := List.eq_nil_of_length_eq_zero same.symm
    rw [List.compare_nil_nil, Ordering.eq_then, List.nil_append, List.nil_append]
  | cons c front ih =>
    cases other with
    | nil => cases same
    | cons d other =>
      rw [List.cons_append, List.cons_append, List.compare_cons_cons, List.compare_cons_cons,
        ih (Nat.succ.inj same), Ordering.then_assoc]

/-- A mark that stands in one place of both texts decides nothing. -/
theorem compare_append_mark (mark : Char) (rest last : List Char) :
    compare (front ++ mark :: rest) (other ++ mark :: last) =
      (compare front other).then (compare rest last) := by
  rw [compare_append same, List.compare_cons_cons, compare_char, Nat.compare_eq_eq.mpr rfl,
    Ordering.eq_then]

end Fronts

theorem compare_digit {c d : Char} (digit : c.isDigit = true) (other : d.isDigit = true) :
    compare c d = compare (digitsValue [c]) (digitsValue [d]) := by
  have lower := (toNat_of_isDigit digit).1
  have otherLower := (toNat_of_isDigit other).1
  rw [compare_char, digitsValue_single, digitsValue_single]
  rcases Nat.lt_trichotomy c.toNat d.toNat with below | same | above
  · rw [Nat.compare_eq_lt.mpr below, Nat.compare_eq_lt.mpr (by omega)]
  · rw [same, Nat.compare_eq_eq.mpr rfl, Nat.compare_eq_eq.mpr rfl]
  · rw [Nat.compare_eq_gt.mpr above, Nat.compare_eq_gt.mpr (by omega)]

/-- Runs of digits of one length are ordered as the numbers that they denote. -/
theorem compare_digits {digits other : List Char} (digit : ∀ c ∈ digits, c.isDigit = true)
    (otherDigit : ∀ c ∈ other, c.isDigit = true) (same : digits.length = other.length) :
    compare digits other = compare (digitsValue digits) (digitsValue other) := by
  induction digits generalizing other with
  | nil =>
    obtain rfl := List.eq_nil_of_length_eq_zero same.symm
    rfl
  | cons c digits ih =>
    cases other with
    | nil => cases same
    | cons d other =>
      obtain ⟨first, digit⟩ := List.forall_mem_cons.mp digit
      obtain ⟨otherFirst, otherDigit⟩ := List.forall_mem_cons.mp otherDigit
      have length : digits.length = other.length := Nat.succ.inj same
      have bound := digitsValue_lt digit
      have otherBound := digitsValue_lt otherDigit
      have split := digitsValue_append [c] digits
      have otherSplit := digitsValue_append [d] other
      rw [List.singleton_append] at split otherSplit
      rw [← length] at otherBound otherSplit
      rw [List.compare_cons_cons, ih digit otherDigit length, compare_digit first otherFirst,
        split, otherSplit, compare_natPlaces bound otherBound]

theorem compare_decimalPadded {width m n : Nat} (wide : 0 < width) (first : m < 10 ^ width)
    (second : n < 10 ^ width) :
    compare (decimalPadded width m) (decimalPadded width n) = compare m n := by
  have same : (decimalPadded width m).length = (decimalPadded width n).length :=
    (length_decimalPadded wide first).trans (length_decimalPadded wide second).symm
  rw [compare_digits (fun _ => isDigit_of_mem_decimalPadded)
    (fun _ => isDigit_of_mem_decimalPadded) same, digitsValue_decimalPadded,
    digitsValue_decimalPadded]

end Text

end PagedSearch
