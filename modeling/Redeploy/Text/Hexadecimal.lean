/-
  Hexadecimal digits.

  Key definitions include:
    * `hexValue?`
    * `hexDigit`

  Digits are read in both cases and written in lowercase.
-/

------------------------------------------------------------
-- Digits
------------------------------------------------------------

namespace Redeploy

namespace Text

/- The value of a hexadecimal digit. -/
def hexValue?
    (c : Char) : Option Nat :=
  if '0' ≤ c ∧ c ≤ '9' then some (c.toNat - '0'.toNat)
  else if 'a' ≤ c ∧ c ≤ 'f' then
    some (c.toNat - 'a'.toNat + 10)
  else if 'A' ≤ c ∧ c ≤ 'F' then
    some (c.toNat - 'A'.toNat + 10)
  else none

/- The digit of a value below sixteen. -/
def hexDigit
    (n : Nat) : Char :=
  if n < 10 then Char.ofNat ('0'.toNat + n)
  else Char.ofNat ('a'.toNat + (n - 10))

end Text

end Redeploy
