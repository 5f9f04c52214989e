/-!
# Decimal digits

Whole numbers as texts of ASCII digits: writing with a least width, and taking
a run of digits off the front of a text.
-/
namespace PagedSearch.Text

/-- The number that a run of decimal digits denotes; the empty run denotes zero. -/
def digitsValue (digits : List Char) : Nat :=
  Nat.ofDigitChars 10 digits 0

/-- The decimal digits of a number, without leading zeros. -/
def decimal (n : Nat) : List Char :=
  Nat.toDigits 10 n

/-- The decimal digits of a number, with leading zeros up to `width` places. -/
def decimalPadded (width n : Nat) : List Char :=
  List.replicate (width - (decimal n).length) '0' ++ decimal n

/-- The decimal text of an integer. -/
def decimalInt (n : Int) : List Char :=
  if n < 0 then '-' :: decimal n.natAbs else decimal n.natAbs

/-- The digits at the front of a text and the rest behind them. -/
def takeDigits (s : List Char) : List Char × List Char :=
  (s.takeWhile Char.isDigit, s.dropWhile Char.isDigit)

/-- The digits at the front of a text, at most `width` of them, and the rest behind them. -/
def takeDigitsUpTo (width : Nat) (s : List Char) : List Char × List Char :=
  let digits := (s.take width).takeWhile Char.isDigit
  (digits, s.drop digits.length)

theorem digitsValue_decimal (n : Nat) : digitsValue (decimal n) = n := by
  simp [digitsValue, decimal, Nat.ofDigitChars_toDigits]

theorem digitsValue_decimalPadded (width n : Nat) : digitsValue (decimalPadded width n) = n := by
  have read := digitsValue_decimal n
  simp only [digitsValue] at read
  rw [decimalPadded, digitsValue, Nat.ofDigitChars_append, Nat.ofDigitChars_replicate_zero]
  simpa using read

theorem isDigit_of_mem_decimal {n : Nat} {c : Char} (h : c ∈ decimal n) : c.isDigit = true :=
  Nat.isDigit_of_mem_toDigits (by decide) (by decide) h

theorem decimal_ne_nil (n : Nat) : decimal n ≠ [] :=
  Nat.toDigits_ne_nil

theorem takeDigits_append (s : List Char) : (takeDigits s).1 ++ (takeDigits s).2 = s :=
  List.takeWhile_append_dropWhile

end PagedSearch.Text
