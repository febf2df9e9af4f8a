/-
  Sets of characters as lists of closed code point ranges.

  Key definitions include:
    * `CharRange`
    * `inRanges`
-/

------------------------------------------------------------
-- Ranges
------------------------------------------------------------

namespace Redeploy

namespace Text

/- The first and the last code point of a range. -/
abbrev CharRange := Nat × Nat

/- Whether a character lies in one of the ranges. -/
def inRanges
    (ranges : List CharRange)
    (c : Char) : Bool :=
  ranges.any fun r => r.1 ≤ c.toNat && c.toNat ≤ r.2

end Text

end Redeploy
