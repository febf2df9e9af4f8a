import Redeploy.Text.CharRange

/-
  White space and trimming.

  Key definitions include:
    * `isSpace`
    * `trim`

  White space is the Unicode property White_Space: the ASCII
  blanks, U+0085, U+00A0 and the space, line and paragraph
  separators.  Trimming removes it from both ends only.
-/

------------------------------------------------------------
-- White Space
------------------------------------------------------------

namespace Redeploy

namespace Text

/- The property White_Space. -/
def spaceRanges : List CharRange :=
  [(0x0009, 0x000D), (0x0020, 0x0020), (0x0085, 0x0085),
   (0x00A0, 0x00A0), (0x1680, 0x1680), (0x2000, 0x200A),
   (0x2028, 0x2029), (0x202F, 0x202F), (0x205F, 0x205F),
   (0x3000, 0x3000)]

def isSpace
    (c : Char) : Bool :=
  inRanges spaceRanges c

end Text

end Redeploy

------------------------------------------------------------
-- Trimming
------------------------------------------------------------

namespace Redeploy

namespace Text

/- Drop trailing white space. -/
def trimEnd
    (cs : List Char) : List Char :=
  (cs.reverse.dropWhile isSpace).reverse

/- Drop white space at both ends. -/
def trim
    (cs : List Char) : List Char :=
  trimEnd (cs.dropWhile isSpace)

/- Text without white space at its ends is left alone. -/
theorem trim_eq_self
    {cs : List Char}
    (hFirst : ∀ c ∈ cs.head?, isSpace c = false)
    (hLast : ∀ c ∈ cs.getLast?, isSpace c = false) :
    trim cs = cs := by
  have hStart : cs.dropWhile isSpace = cs := by
    cases cs with
    | nil => rfl
    | cons c rest => simp [List.dropWhile, hFirst c rfl]
  have hEnd :
      cs.reverse.dropWhile isSpace = cs.reverse := by
    cases h : cs.reverse with
    | nil => rfl
    | cons c rest =>
        have hc : cs.getLast? = some c := by
          rw [← List.head?_reverse, h]
          rfl
        simp [List.dropWhile, hLast c (by simp [hc])]
  rw [trim, trimEnd, hStart, hEnd, List.reverse_reverse]

end Text

end Redeploy
