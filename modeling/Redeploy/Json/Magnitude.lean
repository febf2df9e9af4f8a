import Redeploy.Json.Reader
import Redeploy.Rounding
import Redeploy.Text.Numeral

/-
  Numbers as digits and a power of ten.

  Key definitions include:
    * `Json.Scaled`
    * `Json.Scaled.ofLiteral?`
    * `Json.Scaled.hasDouble`

  The digits of a number that 64 bits have room for make its
  significand.  Whole digits beyond them count as zeros, and
  the rest of a fraction is dropped.  The double of a number
  is the product of two doubles, that of the significand and
  that of the power; a number whose product is out of their
  range has none.
-/

------------------------------------------------------------
-- Digits
------------------------------------------------------------

namespace Redeploy

namespace Json

open Redeploy.Text (digitValue)

/- The number `significand * 10 ^ exponent`, up to its
   sign. -/
structure Scaled where
  significand : Nat
  exponent : Int
deriving DecidableEq

namespace Scaled

/- What no significand reaches: 2^64. -/
abbrev significandLimit : Nat := 0x10000000000000000

/- Add whole digits to a significand.  The second number
   counts those that there is no room for. -/
def addWhole
    (n : Nat) : List Char → Nat × Nat
  | [] => (n, 0)
  | d :: rest =>
      if 10 * n + digitValue d < significandLimit then
        addWhole (10 * n + digitValue d) rest
      else (n, rest.length + 1)

/- Add the digits of a fraction to a significand.  The
   second number counts those that are added. -/
def addFraction
    (n : Nat) : List Char → Nat × Nat
  | [] => (n, 0)
  | d :: rest =>
      if 10 * n + digitValue d < significandLimit then
        let (n, added) :=
          addFraction (10 * n + digitValue d) rest
        (n, added + 1)
      else (n, 0)

/- The value of digits. -/
def digitsValue
    (digits : List Char) : Nat :=
  digits.foldl (fun n d => 10 * n + digitValue d) 0

/- The value of an exponent with its mark, zero without. -/
def exponentValue
    (exponent : List Char) : Int :=
  match readSign exponent.tail with
  | (['-'], digits) => -(digitsValue digits : Int)
  | (_, digits) => digitsValue digits

/- The number of a literal. -/
def ofLiteral?
    (literal : List Char) : Option Scaled := do
  let (_, rest) := readMinus literal
  let (whole, rest) ← readWhole rest
  let (fraction, rest) ← readFraction rest
  let (exponent, _) ← readExponent rest
  let (n, extra) := addWhole 0 whole
  let (n, added) := addFraction n fraction.tail
  return {
    significand := n
    exponent := exponentValue exponent + extra - added }

end Scaled

end Json

end Redeploy

------------------------------------------------------------
-- Doubles
------------------------------------------------------------

namespace Redeploy

namespace Json

namespace Scaled

/- The greatest power of ten that has a double. -/
def maxExponent : Int := 308

/- The double of a number that is large. -/
def double?
    (s : Scaled) : Option Rat := do
  let significand ← Redeploy.double? (s.significand : Rat)
  let power ← Redeploy.double? ((10 : Rat) ^ s.exponent)
  Redeploy.double? (significand * power)

/- Whether a number is not too large for the doubles. -/
def hasDouble
    (s : Scaled) : Bool :=
  s.significand == 0 || s.exponent ≤ 0 ||
    (s.exponent ≤ maxExponent && s.double?.isSome)

end Scaled

end Json

end Redeploy
