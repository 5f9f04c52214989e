import Mathlib.Algebra.Group.Nat.Defs
import Mathlib.Data.List.TakeWhile
import PagedSearch.Text.Blank
import PagedSearch.Text.Digits

/-!
# Reading digits back

A run of digits in front of a text is taken off whole when no digit follows it
(`takeDigits_digits`), and in any case when it has just the width that is asked
for (`takeDigitsUpTo_digits`). A number that fits into a width is written with
exactly that many places (`length_decimalPadded`).
-/
namespace PagedSearch.Text

variable {digits : List Char}

/-- No digit stands at the front of the text. -/
def EndsDigits (rest : List Char) : Prop :=
  ∀ c ∈ rest.head?, c.isDigit = false

theorem endsDigits_cons {c : Char} (other : c.isDigit = false) (rest : List Char) :
    EndsDigits (c :: rest) := by
  intro d head
  rw [← Option.some.inj head]
  exact other

theorem isDigit_of_mem_takeDigits (s : List Char) : ∀ c ∈ (takeDigits s).1, c.isDigit = true :=
  fun _ member => List.mem_takeWhile_imp member

theorem takeDigits_digits (all : ∀ c ∈ digits, c.isDigit = true) {rest : List Char}
    (ends : EndsDigits rest) : takeDigits (digits ++ rest) = (digits, rest) := by
  have none_taken : rest.takeWhile Char.isDigit = [] ∧ rest.dropWhile Char.isDigit = rest := by
    cases rest with
    | nil => exact ⟨rfl, rfl⟩
    | cons c rest => simp [ends c rfl]
  rw [takeDigits, List.takeWhile_append_of_pos all, List.dropWhile_append_of_pos all,
    none_taken.1, none_taken.2, List.append_nil]

theorem takeDigitsUpTo_digits (all : ∀ c ∈ digits, c.isDigit = true) (rest : List Char) :
    takeDigitsUpTo digits.length (digits ++ rest) = (digits, rest) := by
  have taken : digits.takeWhile Char.isDigit = digits := by
    simpa using @List.takeWhile_append_of_pos _ _ digits [] all
  simp only [takeDigitsUpTo, List.take_left, taken, List.drop_left]

/-! The number that a run of digits denotes. -/

theorem digitsValue_append (front back : List Char) :
    digitsValue (front ++ back) = digitsValue front * 10 ^ back.length + digitsValue back := by
  rw [digitsValue, Nat.ofDigitChars_append, Nat.ofDigitChars_eq_ofDigitChars_zero, Nat.mul_comm]
  rfl

theorem toNat_of_isDigit {c : Char} (digit : c.isDigit = true) :
    '0'.toNat ≤ c.toNat ∧ c.toNat ≤ '9'.toNat := by
  simp only [Char.isDigit, Bool.and_eq_true, decide_eq_true_eq, UInt32.le_iff_toNat_le] at digit
  exact digit

theorem digitsValue_single (c : Char) : digitsValue [c] = c.toNat - '0'.toNat := by
  simp [digitsValue, Nat.ofDigitChars_cons]

theorem isDigit_of_mem_zeros {n : Nat} : ∀ c ∈ List.replicate n '0', c.isDigit = true :=
  fun _ member => List.eq_of_mem_replicate member ▸ rfl

theorem digitsValue_zeros (n : Nat) : digitsValue (List.replicate n '0') = 0 := by
  rw [digitsValue, Nat.ofDigitChars_replicate_zero, Nat.mul_zero]

theorem digitsValue_lt (all : ∀ c ∈ digits, c.isDigit = true) :
    digitsValue digits < 10 ^ digits.length := by
  induction digits with
  | nil => decide
  | cons c digits ih =>
    have rest := ih fun d member => all d (List.mem_cons_of_mem c member)
    have first : digitsValue [c] ≤ 9 := by
      have upper := (toNat_of_isDigit (all c List.mem_cons_self)).2
      rw [digitsValue_single]
      exact Nat.sub_le_of_le_add upper
    have scaled := Nat.mul_le_mul_right (10 ^ digits.length) first
    have front : digitsValue (c :: digits) = digitsValue [c] * 10 ^ digits.length +
        digitsValue digits := digitsValue_append [c] digits
    rw [front, List.length_cons, Nat.pow_succ]
    omega

/-- A run of digits that does not begin with a zero denotes no number of fewer digits. -/
theorem pow_le_digitsValue {c : Char} (digit : c.isDigit = true) (leading : c ≠ '0')
    (digits : List Char) : 10 ^ digits.length ≤ digitsValue (c :: digits) := by
  have size : 1 ≤ digitsValue [c] := by
    have lower := (toNat_of_isDigit digit).1
    have other : c.toNat ≠ '0'.toNat := fun same => leading (Char.toNat_inj.mp same)
    rw [digitsValue_single]
    omega
  have front : digitsValue (c :: digits) = digitsValue [c] * 10 ^ digits.length +
      digitsValue digits := digitsValue_append [c] digits
  have scaled := Nat.mul_le_mul_right (10 ^ digits.length) size
  omega

theorem digitsValue_dropZeros (digits : List Char) :
    digitsValue (digits.dropWhile (· = '0')) = digitsValue digits := by
  induction digits with
  | nil => rfl
  | cons c digits ih =>
    by_cases zero : c = '0'
    · subst zero
      have front : digitsValue ('0' :: digits) = digitsValue ['0'] * 10 ^ digits.length +
          digitsValue digits := digitsValue_append ['0'] digits
      rw [front, show digitsValue ['0'] = 0 from rfl, Nat.zero_mul, Nat.zero_add, ← ih]
      simp
    · simp [zero]

/-- The number of digits behind the leading zeros is the size of the number. -/
theorem pow_length_dropZeros_le (all : ∀ c ∈ digits, c.isDigit = true)
    (positive : digitsValue digits ≠ 0) :
    10 ^ (digits.dropWhile (· = '0')).length ≤ 10 * digitsValue digits := by
  induction digits with
  | nil => exact absurd rfl positive
  | cons c digits ih =>
    by_cases zero : c = '0'
    · have dropped : (c :: digits).dropWhile (· = '0') = digits.dropWhile (· = '0') := by
        simp [zero]
      rw [← digitsValue_dropZeros, dropped, digitsValue_dropZeros] at positive ⊢
      exact ih (fun d member => all d (List.mem_cons_of_mem c member)) positive
    · have kept : (c :: digits).dropWhile (· = '0') = c :: digits := by simp [zero]
      have bound := pow_le_digitsValue (all c List.mem_cons_self) zero digits
      rw [kept, List.length_cons, Nat.pow_succ]
      omega

theorem digitChar_ne_zero {d : Nat} (positive : 0 < d) (small : d < 10) :
    Nat.digitChar d ≠ '0' := by
  have every : ∀ d < 10, 0 < d → Nat.digitChar d ≠ '0' := by decide
  exact every d small positive

/-- A positive number has no leading zero. -/
theorem head?_decimal_ne_zero {n : Nat} (positive : 0 < n) : (decimal n).head? ≠ some '0' := by
  induction n using Nat.strongRecOn with
  | ind n ih =>
    rcases Nat.lt_or_ge n 10 with small | large
    · rw [decimal, Nat.toDigits_of_lt_base small]
      simp [digitChar_ne_zero positive small]
    · have shorter := ih (n / 10) (Nat.div_lt_self positive (by decide))
        (Nat.div_pos large (by decide))
      have filled := decimal_ne_nil (n / 10)
      rw [decimal] at shorter filled
      rw [decimal, Nat.toDigits_of_base_le (by decide) large]
      cases digits : Nat.toDigits 10 (n / 10) with
      | nil => exact absurd digits filled
      | cons first others =>
        rw [digits] at shorter
        exact shorter

theorem length_decimalPadded {width n : Nat} (wide : 0 < width) (fits : n < 10 ^ width) :
    (decimalPadded width n).length = width := by
  have short : (decimal n).length ≤ width :=
    (Nat.length_toDigits_le_iff (by decide) wide).mpr fits
  rw [decimalPadded, List.length_append, List.length_replicate]
  omega

theorem isDigit_of_mem_decimalPadded {width n : Nat} {c : Char}
    (member : c ∈ decimalPadded width n) : c.isDigit = true := by
  rcases List.mem_append.mp member with zero | digit
  · rw [List.eq_of_mem_replicate zero]
    decide
  · exact isDigit_of_mem_decimal digit

theorem decimalPadded_ne_nil (width n : Nat) : decimalPadded width n ≠ [] :=
  List.append_ne_nil_of_right_ne_nil _ (decimal_ne_nil n)

theorem skipBlanks_cons {c : Char} (solid : isBlank c = false) (rest : List Char) :
    skipBlanks (c :: rest) = c :: rest := by
  rw [skipBlanks, List.dropWhile_cons_of_neg (by simp [solid])]

theorem skipBlanks_append {blanks : List Char} (blank : ∀ c ∈ blanks, isBlank c = true)
    (rest : List Char) : skipBlanks (blanks ++ rest) = skipBlanks rest :=
  List.dropWhile_append_of_pos blank

theorem exists_blanks (s : List Char) :
    ∃ blanks, (∀ c ∈ blanks, isBlank c = true) ∧ s = blanks ++ skipBlanks s :=
  ⟨s.takeWhile isBlank, fun _ member => List.mem_takeWhile_imp member,
    List.takeWhile_append_dropWhile.symm⟩

/-- A text without blanks is as it is when the blanks around it are left out. -/
theorem trim_eq_self {s : List Char} (solid : ∀ c ∈ s, isBlank c = false) : trim s = s := by
  have kept : ∀ t : List Char, (∀ c ∈ t, isBlank c = false) → t.dropWhile isBlank = t := by
    intro t solid
    cases t with
    | nil => rfl
    | cons c t => exact skipBlanks_cons (solid c List.mem_cons_self) t
  rw [trim, skipBlanks, kept s solid, dropTrailingBlanks, kept s.reverse, List.reverse_reverse]
  exact fun c member => solid c (List.mem_reverse.mp member)

theorem skipBlanks_digits (all : ∀ c ∈ digits, c.isDigit = true) (some_digit : digits ≠ [])
    (rest : List Char) : skipBlanks (digits ++ rest) = digits ++ rest := by
  cases digits with
  | nil => exact absurd rfl some_digit
  | cons c digits => exact skipBlanks_cons (not_isBlank_of_isDigit (all c (by simp))) _

end PagedSearch.Text
