/-
  Decimal numerals below a limit.

  Key definitions include:
    * `NumeralFault`
    * `readNumeral`

  A numeral is an optional plus sign followed by one or more
  ASCII digits, with any number of leading zeros.  A sign
  alone is no numeral.
-/

------------------------------------------------------------
-- Faults
------------------------------------------------------------

namespace Redeploy

namespace Text

/- Why a text denotes no number in range. -/
inductive NumeralFault where
  | empty
  | invalidDigit
  | tooLarge
deriving DecidableEq, Repr

def NumeralFault.text : NumeralFault → String
  | .empty => "cannot parse integer from empty string"
  | .invalidDigit => "invalid digit found in string"
  | .tooLarge => "number too large to fit in target type"

end Text

end Redeploy

------------------------------------------------------------
-- Reading
------------------------------------------------------------

namespace Redeploy

namespace Text

/- The value of a decimal digit. -/
def digitValue
    (c : Char) : Nat :=
  c.toNat - '0'.toNat

/-
  Read the digits that follow the value `n`, up to the first
  offence: a character that is no digit, or a digit that
  takes the value to the limit.
-/
def readDigits
    {limit : Nat}
    (n : Fin limit) :
    List Char → Except NumeralFault (Fin limit)
  | [] => .ok n
  | c :: rest =>
      if c.isDigit then
        if h : 10 * n + digitValue c < limit then
          readDigits ⟨10 * n + digitValue c, h⟩ rest
        else .error .tooLarge
      else .error .invalidDigit

/- Read a numeral for a number below `limit`. -/
def readNumeral
    (limit : Nat)
    (positive : 0 < limit) :
    List Char → Except NumeralFault (Fin limit)
  | [] => .error .empty
  | ['+'] => .error .invalidDigit
  | '+' :: digits => readDigits ⟨0, positive⟩ digits
  | digits => readDigits ⟨0, positive⟩ digits

end Text

end Redeploy
