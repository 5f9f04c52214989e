import PagedSearch.Proofs.Json.Numerals
import PagedSearch.Proofs.Number.Grammar

/-!
# Whole numbers read back

A whole number of 64 bits, signed or unsigned, is read back from its JSON text
(`readsBack_whole`). Its digits begin with zero only if they are zero alone, so the
reader takes all of them, and nothing stands behind them that would make them a double.
-/
namespace PagedSearch

namespace Node

open DecimalLiteral (Unsigned unsigned_of_digits)

/-- Digits without a leading zero are one whole part. -/
theorem takeWholePart?_digits {whole rest : List Char} (digit : ∀ c ∈ whole, c.isDigit = true)
    (filled : whole ≠ []) (leading : whole = ['0'] ∨ whole.head? ≠ some '0')
    (ends : Text.EndsDigits rest) : takeWholePart? (whole ++ rest) = some (whole, rest) := by
  rcases leading with rfl | leads
  · rfl
  · rw [takeWholePart?.eq_def]
    split
    next head =>
      cases whole with
      | nil => exact absurd rfl filled
      | cons c whole => exact absurd (congrArg List.head? head) leads
    next => simp [Text.takeDigits_digits digit ends, filled]

theorem takeWholePart?_decimal (n : Nat) :
    takeWholePart? (Text.decimal n) = some (Text.decimal n, []) := by
  have leading : Text.decimal n = ['0'] ∨ (Text.decimal n).head? ≠ some '0' := by
    rcases Nat.eq_zero_or_pos n with rfl | positive
    · exact .inl rfl
    · exact .inr (Text.head?_decimal_ne_zero positive)
  have taken := takeWholePart?_digits (fun _ => Text.isDigit_of_mem_decimal)
    (Text.decimal_ne_nil n) leading (show Text.EndsDigits [] from nofun)
  rwa [List.append_nil] at taken

/-- A minus sign is taken off what has no sign. -/
theorem takeMinus_signed (negative : Bool) {s : List Char} (unsigned : Unsigned s) :
    takeMinus (if negative then '-' :: s else s) = (negative, s) := by
  cases negative with
  | true => rfl
  | false =>
    rw [if_neg nofun, takeMinus.eq_def]
    split
    next => exact absurd rfl (unsigned '-' rfl).1
    next => rfl

theorem takeNumeral?_decimalInt (n : Int) :
    takeNumeral? (Text.decimalInt n) =
      some (⟨n < 0, Text.decimal n.natAbs, none, none⟩, []) := by
  have unsigned := @unsigned_of_digits _ [] (fun _ => Text.isDigit_of_mem_decimal)
    (Text.decimal_ne_nil n.natAbs)
  rw [List.append_nil] at unsigned
  have minus := takeMinus_signed (n < 0) unsigned
  simp only [decide_eq_true_eq] at minus
  simp [takeNumeral?, Text.decimalInt, minus, takeWholePart?_decimal, takeFractionPart?,
    takeExponentPart?]

end Node

namespace JsonNumber

/-- A whole number that fits 64 bits, signed or unsigned, comes back from its text. -/
theorem readsBack_whole {n : Int} (low : Int64.minValue.toInt ≤ n) (high : n < UInt64.size) :
    (whole n).ReadsBack := by
  refine readsAs_of_numeral (Node.takeNumeral?_decimalInt n) ?_
  have size : Text.digitsValue (Text.decimal n.natAbs) = n.natAbs := Text.digitsValue_decimal _
  have lowest : Int64.minValue.toInt = -2 ^ 63 := rfl
  have above : UInt64.size = 2 ^ 64 := rfl
  have max : Numeral.significandMax = 2 ^ 64 - 1 := rfl
  have half : Nat.pow 2 63 = 2 ^ 63 := rfl
  rw [lowest] at low
  rw [above] at high
  simp only [Numeral.value?, size, max, half, true_and]
  by_cases negative : n < 0
  · have back : -(n.natAbs : Int) = n := by omega
    rw [if_neg (by simp [negative]), if_pos ⟨by simpa using negative, by omega, by omega⟩, back]
  · have back : (n.natAbs : Int) = n := by omega
    rw [if_pos ⟨by simpa using negative, by omega⟩, back]

end JsonNumber

end PagedSearch
