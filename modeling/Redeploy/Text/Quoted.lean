import Redeploy.Text.DisplayTable

/-
  Text quoted for messages.

  Key definitions include:
    * `isPlain`
    * `escapeChar`
    * `quoted`

  A quoted text stands between double quotes.  The quote,
  the backslash and the common control characters have
  short escapes; any other character that does not print,
  that shows nothing, or that would join the one before it,
  is written by its code point.
-/

------------------------------------------------------------
-- Characters
------------------------------------------------------------

namespace Redeploy

namespace Text

/- Whether a character joins the one before it. -/
def isJoining
    (c : Char) : Bool :=
  inRanges extendingRanges c &&
    !inRanges extendingLetterRanges c

/- Whether a character may stand for itself. -/
def isPlain
    (c : Char) : Bool :=
  !inRanges unprintableRanges c &&
    !inRanges ignorableRanges c && !isJoining c

/- The code point of a character, in lowercase hexadecimal. -/
def codePoint
    (c : Char) : List Char :=
  "\\u\x7b".toList ++ Nat.toDigits 16 c.toNat ++ ['\x7d']

/- A character as it stands inside quotes. -/
def escapeChar
    (c : Char) : List Char :=
  if c = '"' then ['\\', '"']
  else if c = '\\' then ['\\', '\\']
  else if c = '\n' then ['\\', 'n']
  else if c = '\r' then ['\\', 'r']
  else if c = '\t' then ['\\', 't']
  else if c = '\x00' then ['\\', '0']
  else if isPlain c then [c]
  else codePoint c

end Text

end Redeploy

------------------------------------------------------------
-- Texts
------------------------------------------------------------

namespace Redeploy

namespace Text

/- A text between double quotes. -/
def quoted
    (s : String) : String :=
  String.ofList
    ('"' :: s.toList.flatMap escapeChar ++ ['"'])

end Text

end Redeploy
