import PagedSearch.Number.Rounding
import PagedSearch.Text.Digits

/-!
# Shortest decimal digits

The digits that a number is written with are the fewest that read back as the
same double, and among those the ones nearest to it. For each count of digits
the two decimal neighbours of the value are tried in exact arithmetic; the
first count with a neighbour that reads back is taken.
-/
namespace PagedSearch

/-- Which of two equally near decimals is taken. -/
inductive Tie where
  | up | even
  deriving DecidableEq, Repr

/-- A positive decimal number `0.d₁d₂… × 10^point`. -/
structure DecimalDigits where
  digits : List Char
  point : Int
  deriving DecidableEq, Repr

namespace Shortest

/-- The decimal point position of a positive value: the least `p` such that the
value is below 10^p. Every double is above 10^-400. -/
def pointOf (units : Nat) : Int :=
  (Text.decimal (units * Nat.pow 10 400 / unitsPerOne)).length - 400

/-- Numerator of a count of half units on a grid of step 10^`step`. -/
def scaleUp (halfUnits : Nat) (step : Int) : Nat :=
  halfUnits * Nat.pow 10 (-step).toNat

/-- Half units in one step of the grid, brought to the same denominator. -/
def stepSize (step : Int) : Nat :=
  2 * unitsPerOne * Nat.pow 10 step.toNat

/-- Whether the decimal `n × 10^step` rounds to the double of a magnitude: it lies
between the middles of the two gaps, and on a middle only if the magnitude is even. -/
def roundsTo (magnitude : Nat) (step : Int) (n : Nat) : Bool :=
  let value := unitsOfMagnitude magnitude
  let low := scaleUp (value + unitsOfMagnitude (magnitude - 1)) step
  let high := scaleUp (value + unitsOfMagnitude (magnitude + 1)) step
  let here := n * stepSize step
  if magnitude % 2 = 0 then low ≤ here && here ≤ high else low < here && here < high

/-- The nearest of the two neighbours of a value on a grid that rounds to it. -/
def onGrid? (tie : Tie) (magnitude : Nat) (step : Int) : Option Nat :=
  let value := scaleUp (2 * unitsOfMagnitude magnitude) step
  let below := value / stepSize step
  match roundsTo magnitude step below, roundsTo magnitude step (below + 1) with
  | false, false => none
  | true, false => some below
  | false, true => some (below + 1)
  | true, true =>
    let twice := 2 * (value % stepSize step)
    let goesUp := stepSize step < twice ∨
      (twice = stepSize step ∧ (tie = .up ∨ below % 2 = 1))
    some (if goesUp then below + 1 else below)

/-- The digits of `n × 10^step`, without the zeros at their end. -/
def digitsOf (n : Nat) (step : Int) : DecimalDigits :=
  let digits := Text.decimal n
  ⟨(digits.reverse.dropWhile (· = '0')).reverse, step + digits.length⟩

end Shortest

/-- The shortest digits of a positive magnitude. Seventeen digits tell all doubles
apart, so some count up to seventeen has a decimal that reads back. -/
def shortestDigits (tie : Tie) (magnitude : Nat) : DecimalDigits :=
  let point := Shortest.pointOf (unitsOfMagnitude magnitude)
  let found := (List.range 17).findSome? fun count : Nat =>
    let step := point - (count + 1 : Nat)
    (Shortest.onGrid? tie magnitude step).map fun n => Shortest.digitsOf n step
  found.getD ⟨[], point⟩

end PagedSearch
