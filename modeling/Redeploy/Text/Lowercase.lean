import Redeploy.Text.CaseTable

/-
  Full lowercasing.

  Key definitions include:
    * `lowerChar`
    * `endsWord`
    * `lowercase`

  Two characters do not follow the one-to-one table: a
  capital I with a dot above becomes an i and a combining
  dot, and a capital sigma becomes the final form where a
  word ends.
-/

------------------------------------------------------------
-- Single Characters
------------------------------------------------------------

namespace Redeploy

namespace Text

def isCased
    (c : Char) : Bool :=
  inRanges casedRanges c

def isCaseIgnorable
    (c : Char) : Bool :=
  inRanges caseIgnorableRanges c

/- Whether a row of the table speaks of a code point. -/
def CaseShift.covers
    (row : CaseShift)
    (n : Nat) : Bool :=
  row.first ≤ n && n ≤ row.last &&
    (n - row.first) % row.step == 0

/- The lowercase form of a character on its own. -/
def lowerChar
    (c : Char) : List Char :=
  if c = 'İ' then ['i', '\u0307']
  else
    match lowercaseShifts.find? (·.covers c.toNat) with
    | some row => [Char.ofNat (c.toNat + row.shift).toNat]
    | none => [c]

end Text

end Redeploy

------------------------------------------------------------
-- Words
------------------------------------------------------------

namespace Redeploy

namespace Text

/-
  Whether a cased character comes first once the characters
  that casing ignores are skipped.
-/
def startsCased
    (cs : List Char) : Bool :=
  match cs.dropWhile isCaseIgnorable with
  | c :: _ => isCased c
  | [] => false

/-
  Whether a letter between `before` (nearest first) and
  `after` is the last one of a word of several letters.
-/
def endsWord
    (before after : List Char) : Bool :=
  startsCased before && !startsCased after

private def lowerFrom
    (before : List Char) : List Char → List Char
  | [] => []
  | c :: after =>
      let lowered :=
        if c = 'Σ' then
          [if endsWord before after then 'ς' else 'σ']
        else lowerChar c
      lowered ++ lowerFrom (c :: before) after

/- The lowercase form of a text. -/
def lowercase
    (s : String) : String :=
  String.ofList (lowerFrom [] s.toList)

end Text

end Redeploy
