/-
  Rounding of rational numbers.

  Key definitions include:
    * `roundHalfEven`
    * `binade`
    * `unitExponent`
    * `nearestDouble`
    * `double?`

  A double is a number with a significand of 53 bits and a
  last place of at least 2^-1074.  Rounding to a double goes
  to the nearest one, a tie to the one whose significand is
  even; a result of 2^1024 or more has no double.
-/

------------------------------------------------------------
-- Integers
------------------------------------------------------------

namespace Redeploy

/- The nearest integer; a half goes to the even neighbour. -/
def roundHalfEven
    (x : Rat) : Int :=
  let n := x.floor
  if x - n < 1 / 2 then n
  else if 1 / 2 < x - n then n + 1
  else n + n % 2

end Redeploy

------------------------------------------------------------
-- Doubles
------------------------------------------------------------

namespace Redeploy

/-
  The exponent `e` with `2 ^ e ≤ x < 2 ^ (e + 1)`, for a
  positive number.  The lengths of its numerator and its
  denominator leave two candidates.
-/
def binade
    (x : Rat) : Int :=
  let e : Int := (x.num.natAbs.log2 : Int) - x.den.log2
  if (2 : Rat) ^ e ≤ x then e else e - 1

/- The exponent of the last place of a double near `x`. -/
def unitExponent
    (x : Rat) : Int :=
  max (binade x - 52) (-1074)

/- The nearest double to `x`, were there no largest one. -/
def nearestDouble
    (x : Rat) : Rat :=
  let unit := (2 : Rat) ^ unitExponent x
  roundHalfEven (x / unit) * unit

/- The nearest double to a number that is not negative. -/
def double?
    (x : Rat) : Option Rat :=
  let y := nearestDouble x
  if y < (2 : Rat) ^ (1024 : Int) then some y else none

end Redeploy
