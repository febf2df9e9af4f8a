import Redeploy.Rounding

/-
  Double precision numbers by their bits.

  Key definitions include:
    * `Binary64`
    * `Binary64.value?`
    * `Binary64.ofRat`

  The bits are the interchange format: a sign, eleven bits
  of biased exponent and 52 bits of fraction.  Infinities
  and not-a-number have no rational value.
-/

------------------------------------------------------------
-- Bits
------------------------------------------------------------

namespace Redeploy

structure Binary64 where
  bits : UInt64
deriving DecidableEq

namespace Binary64

def two : Binary64 := ⟨0x4000000000000000⟩

/- The worth of the sign bit: 2^63. -/
abbrev signUnit : Nat := 0x8000000000000000

/- A limit for fractions, and the worth of the exponent's
   last bit: 2^52. -/
abbrev fractionLimit : Nat := 0x10000000000000

/- Whether the sign bit is set. -/
def negative
    (b : Binary64) : Bool :=
  b.bits.toNat / signUnit == 1

def exponentField
    (b : Binary64) : Nat :=
  b.bits.toNat / fractionLimit % 0x800

def fraction
    (b : Binary64) : Nat :=
  b.bits.toNat % fractionLimit

/- Whether the bits denote no number at all. -/
def isNaN
    (b : Binary64) : Bool :=
  b.exponentField == 2047 && b.fraction != 0

end Binary64

end Redeploy

------------------------------------------------------------
-- Values
------------------------------------------------------------

namespace Redeploy

namespace Binary64

/- The magnitude of a finite number. -/
def magnitude
    (b : Binary64) : Rat :=
  if b.exponentField = 0 then
    b.fraction * (2 : Rat) ^ (-1074 : Int)
  else
    (fractionLimit + b.fraction : Nat) *
      (2 : Rat) ^ ((b.exponentField : Int) - 1075)

/- The rational value, of finite numbers only. -/
def value?
    (b : Binary64) : Option Rat :=
  if b.exponentField = 2047 then none
  else if b.negative then some (-b.magnitude)
  else some b.magnitude

/-
  The bits of the double nearest to a number; beyond the
  largest double, those of an infinity.
-/
def ofRat
    (x : Rat) : Binary64 :=
  let sign : Nat := if x < 0 then signUnit else 0
  let size := if x < 0 then -x else x
  match double? size with
  | none => ⟨UInt64.ofNat (sign + 2047 * fractionLimit)⟩
  | some y =>
      let e := unitExponent y
      let significand := (y / (2 : Rat) ^ e).floor.toNat
      if significand < fractionLimit then
        ⟨UInt64.ofNat (sign + significand)⟩
      else
        let field := (e + 1075).toNat
        ⟨UInt64.ofNat
          (sign + field * fractionLimit +
            (significand - fractionLimit))⟩

end Binary64

end Redeploy
