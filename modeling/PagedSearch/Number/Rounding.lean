import PagedSearch.Number.Binary64

/-!
# Rounding to the nearest double

A ratio of whole numbers is rounded to the nearest double, a half going to the
even neighbour. Products and quotients of doubles are rounded exact results,
and so are whole numbers and powers of ten. A result that rounds beyond the
largest double is none.
-/
namespace PagedSearch

/-- The whole number nearest to `n / d`, of two equally near ones the even one. -/
def roundHalfEven (n d : Nat) : Nat :=
  let floor := n / d
  let rest := n % d
  if 2 * rest < d ∨ (2 * rest = d ∧ floor % 2 = 0) then floor else floor + 1

/-- The magnitude nearest to `n / d` units. The quotient is rounded on the grid of
its own binade; a quotient that rounds up to the end of the binade lands on the
first magnitude of the next one. -/
def nearestMagnitude (n d : Nat) : Nat :=
  let shift := (n / d).log2 - 52
  shift * binade + roundHalfEven n (d * Nat.pow 2 shift)

namespace Binary64

/-- The double nearest to `n / d` units, if it is finite. -/
def nearest? (negative : Bool) (n d : Nat) : Option Binary64 :=
  if h : nearestMagnitude n d < magnitudeBound then some ⟨negative, nearestMagnitude n d, h⟩
  else none

/-- The double nearest to a whole number. -/
def ofNat? (negative : Bool) (n : Nat) : Option Binary64 :=
  nearest? negative (n * unitsPerOne) 1

/-- The double nearest to an integer. -/
def ofInt? (n : Int) : Option Binary64 :=
  ofNat? (n < 0) n.natAbs

/-- The double nearest to a product. -/
def mul? (x y : Binary64) : Option Binary64 :=
  nearest? (x.negative != y.negative) (x.units * y.units) unitsPerOne

/-- The double nearest to a quotient, none when the divisor is zero. -/
def div? (x y : Binary64) : Option Binary64 :=
  if y.magnitude = 0 then none
  else nearest? (x.negative != y.negative) (x.units * unitsPerOne) y.units

/-- The double nearest to a power of ten. -/
def tenPow? (exponent : Nat) : Option Binary64 :=
  ofNat? false (Nat.pow 10 exponent)

end Binary64

end PagedSearch
