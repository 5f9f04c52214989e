/-!
# Finite binary64 numbers

A number field holds a finite IEEE 754 double. It is kept as a sign and a
magnitude, where the magnitude is the place of the value among all values that
are not negative: 0 is zero, 1 is the least positive value 2^-1074, and each
further step goes to the next larger value. So order of magnitudes is order of
values, and every value has one form apart from the two zeros.

`units` gives the value back as a whole multiple of 2^-1074.
-/
namespace PagedSearch

-- Powers are written `Nat.pow`: the operator `^` is another function of the same values
-- wherever the algebra of Mathlib is in scope.
/-- The magnitudes in one binade, the run of values of one exponent. -/
def binade : Nat := Nat.pow 2 52

/-- The magnitude at which the values stop being finite. -/
def magnitudeBound : Nat := 2047 * binade

/-- The common denominator of all values: each is a whole multiple of its inverse. -/
def unitsPerOne : Nat := Nat.pow 2 1074

/-- The value of a magnitude as a multiple of 2^-1074. In the lowest two binades
the values are one unit apart, and with each further binade the distance doubles. -/
def unitsOfMagnitude (magnitude : Nat) : Nat :=
  let shift := magnitude / binade - 1
  (magnitude - shift * binade) * Nat.pow 2 shift

/-- A finite double, with both zeros. -/
structure Binary64 where
  negative : Bool
  magnitude : Nat
  finite : magnitude < magnitudeBound
  deriving DecidableEq, Repr

namespace Binary64

/-- The absolute value as a multiple of 2^-1074. -/
def units (x : Binary64) : Nat :=
  unitsOfMagnitude x.magnitude

/-- Zero with the given sign. -/
def zero (negative : Bool) : Binary64 :=
  ⟨negative, 0, by decide⟩

/-- The place of a value on the number line; both zeros share place 0. -/
def place (x : Binary64) : Int :=
  if x.negative then -(x.magnitude : Int) else x.magnitude

/-- Order by value. The two zeros are equal. -/
def compare (x y : Binary64) : Ordering :=
  Ord.compare x.place y.place

end Binary64

end PagedSearch
