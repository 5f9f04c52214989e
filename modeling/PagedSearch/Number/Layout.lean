import PagedSearch.Number.Shortest

/-!
# Number layouts

Numbers are written in two layouts over the same shortest digits. The plain
layout is for people and for SQL literals: positional, and without a fraction
when the number is whole. The JSON layout always shows that the number is not
a whole-number literal: by a fraction, or by an exponent outside the window of
decimal points -4 to 16.
-/
namespace PagedSearch

namespace DecimalDigits

/-- Positional notation, with `whole` behind a number that has no fraction. -/
def positional (d : DecimalDigits) (whole : List Char) : List Char :=
  if d.point ≤ 0 then
    '0' :: '.' :: (List.replicate (-d.point).toNat '0' ++ d.digits)
  else
    let point := d.point.toNat
    if d.digits.length ≤ point then
      d.digits ++ List.replicate (point - d.digits.length) '0' ++ whole
    else d.digits.take point ++ '.' :: d.digits.drop point

/-- Scientific notation: one digit, the others as a fraction, and a signed exponent. -/
def scientific (d : DecimalDigits) : List Char :=
  let exponent := d.point - 1
  let sign := if exponent < 0 then '-' else '+'
  let fraction := d.digits.drop 1
  let fraction := if fraction = [] then [] else '.' :: fraction
  d.digits.take 1 ++ fraction ++ 'e' :: sign :: Text.decimal exponent.natAbs

/-- The JSON layout of a positive number. -/
def json (d : DecimalDigits) : List Char :=
  if -5 < d.point ∧ d.point ≤ 16 then d.positional ['.', '0'] else d.scientific

end DecimalDigits

namespace Binary64

/-- A minus sign for values marked negative, zero included. -/
def signed (x : Binary64) (unsigned : List Char) : List Char :=
  if x.negative then '-' :: unsigned else unsigned

/-- The plain layout: never an exponent, no fraction for whole numbers, a tie
between two shortest decimals going up. -/
def plain (x : Binary64) : List Char :=
  x.signed <|
    if x.magnitude = 0 then ['0'] else (shortestDigits .up x.magnitude).positional []

/-- The JSON layout, a tie between two shortest decimals going to the even digit. -/
def json (x : Binary64) : List Char :=
  x.signed <|
    if x.magnitude = 0 then ['0', '.', '0'] else (shortestDigits .even x.magnitude).json

end Binary64

end PagedSearch
