import PagedSearch.Number.Rounding
import PagedSearch.Text.Digits

/-!
# Decimal literals

The literals of a number field: an optional sign, digits with an optional
point and at least one digit on one side of it, and an optional exponent. A
literal denotes an exact decimal number, and is read as the double nearest to
it. Words for infinity or for no number are not literals, and a literal that
rounds beyond the largest double has no value.
-/
namespace PagedSearch

/-- A decimal numeral taken apart: `whole.fraction × 10^exponent` with a sign. -/
structure DecimalLiteral where
  negative : Bool
  whole : List Char
  fraction : List Char
  exponent : Int
  deriving DecidableEq, Repr

namespace DecimalLiteral

/-- A leading sign, true for minus, and the text behind it. -/
def takeSign : List Char → Bool × List Char
  | '-' :: rest => (true, rest)
  | '+' :: rest => (false, rest)
  | rest => (false, rest)

/-- The digits behind a point at the front, if there is one. -/
def takeFraction : List Char → List Char × List Char
  | '.' :: rest => Text.takeDigits rest
  | rest => ([], rest)

/-- The exponent that makes up the rest of a literal; an empty rest is exponent 0. -/
def readExponent? : List Char → Option Int
  | [] => some 0
  | mark :: rest =>
    if mark = 'e' ∨ mark = 'E' then
      let (negative, digits) := takeSign rest
      if digits ≠ [] ∧ digits.all Char.isDigit then
        let size : Int := Text.digitsValue digits
        some (if negative then -size else size)
      else none
    else none

/-- The literal that a whole text spells. -/
def read? (s : List Char) : Option DecimalLiteral :=
  let (negative, unsigned) := takeSign s
  let (whole, rest) := Text.takeDigits unsigned
  let (fraction, rest) := takeFraction rest
  if whole = [] ∧ fraction = [] then none
  else (readExponent? rest).map fun exponent => ⟨negative, whole, fraction, exponent⟩

/-- All digits of the literal as one whole number. -/
def coefficient (l : DecimalLiteral) : Nat :=
  Text.digitsValue (l.whole ++ l.fraction)

/-- The power of ten that the coefficient stands before. -/
def scale (l : DecimalLiteral) : Int :=
  l.exponent - l.fraction.length

/-- The number of digits of the coefficient, leading zeros left out. -/
def significantDigits (l : DecimalLiteral) : Nat :=
  ((l.whole ++ l.fraction).dropWhile (· = '0')).length

/-- The double nearest to the literal. A literal from 10^310 on is beyond every
double and one below 10^-330 is nearest to zero, so powers of ten stay small. -/
def toBinary64? (l : DecimalLiteral) : Option Binary64 :=
  let point := l.scale + l.significantDigits
  if l.coefficient = 0 ∨ point < -330 then some (.zero l.negative)
  else if 310 < point then none
  else
    Binary64.nearest? l.negative
      (l.coefficient * Nat.pow 10 l.scale.toNat * unitsPerOne) (Nat.pow 10 (-l.scale).toNat)

end DecimalLiteral

/-- The double that a number literal denotes. -/
def Binary64.read? (s : List Char) : Option Binary64 := do
  (← DecimalLiteral.read? s).toBinary64?

end PagedSearch
