import PagedSearch.Json.Basic
import PagedSearch.Number.Layout

/-!
# Numbers in JSON texts

A numeral without point and exponent is a whole number if it lies between
-2^63 and 2^64 - 1; all other numerals, and a negative zero, are doubles.

A double is found from at most 64 bits of digits: leading digits are taken as
long as their number fits, later digits of the whole part count as powers of
ten, and later digits of the fraction are dropped. That number is rounded, and
then multiplied or divided by one rounded power of ten (by two when the power
is below 10^-308). So the double is near the numeral, but not always the
nearest one.
-/
namespace PagedSearch

/-- A numeral taken apart: digits before and behind the point, and the exponent. -/
structure Numeral where
  negative : Bool
  whole : List Char
  fraction : Option (List Char)
  exponent : Option Int
  deriving DecidableEq, Repr

namespace Numeral

/-- The largest number of 64 bits. -/
def significandMax : Nat := Nat.pow 2 64 - 1

/-- A number of at most 64 bits before a power of ten. -/
structure Scaled where
  significand : Nat
  exponent : Int
  deriving DecidableEq, Repr

/-- Takes digits of the whole part into a significand; from the first digit that
does not fit, each counts as a power of ten. -/
def takeWhole (significand : Nat) : List Char → Scaled
  | [] => ⟨significand, 0⟩
  | c :: rest =>
    let next := Text.digitsValue [c] + 10 * significand
    if next ≤ significandMax then takeWhole next rest
    else ⟨significand, (c :: rest).length⟩

/-- Takes digits of the fraction into a significand; from the first digit that
does not fit, all are dropped. -/
def takeFraction (s : Scaled) : List Char → Scaled
  | [] => s
  | c :: rest =>
    let next := Text.digitsValue [c] + 10 * s.significand
    if next ≤ significandMax then takeFraction ⟨next, s.exponent - 1⟩ rest else s

/-- The digits and exponent of a numeral as a scaled number. -/
def scaled (n : Numeral) : Scaled :=
  let s := takeFraction (takeWhole 0 n.whole) (n.fraction.getD [])
  { s with exponent := s.exponent + n.exponent.getD 0 }

/-- Multiplies or divides a double by a power of ten. Below 10^-308 it is first divided by
10^308; a significand of 64 bits divided so twice is zero. -/
def scaleBy? (x : Binary64) (exponent : Int) : Option Binary64 := do
  if 308 < exponent then none
  else if 0 ≤ exponent then x.mul? (← Binary64.tenPow? exponent.toNat)
  else if -308 ≤ exponent then x.div? (← Binary64.tenPow? (-exponent).toNat)
  else if -616 ≤ exponent then
    let small ← x.div? (← Binary64.tenPow? 308)
    small.div? (← Binary64.tenPow? (-exponent - 308).toNat)
  else some (.zero x.negative)

/-- The double that a numeral is read as, none beyond the range of doubles. -/
def real? (n : Numeral) : Option Binary64 := do
  let s := n.scaled
  if s.significand = 0 then return .zero n.negative
  let x ← Binary64.ofNat? n.negative s.significand
  scaleBy? x s.exponent

/-- The number that a numeral is read as, none beyond the range of doubles. -/
def value? (n : Numeral) : Option JsonNumber :=
  let size := Text.digitsValue n.whole
  if n.fraction = none ∧ n.exponent = none ∧ !n.negative ∧ size ≤ significandMax then
    some (.whole size)
  else if n.fraction = none ∧ n.exponent = none ∧ n.negative ∧ 0 < size ∧ size ≤ Nat.pow 2 63 then
    some (.whole (-(size : Int)))
  else n.real?.map .real

end Numeral

namespace JsonNumber

/-- The JSON text of a number. -/
def text : JsonNumber → List Char
  | whole n => Text.decimalInt n
  | real x => x.json

/-- The double nearest to a number. -/
def toBinary64? : JsonNumber → Option Binary64
  | whole n => Binary64.ofInt? n
  | real x => some x

end JsonNumber

end PagedSearch
