import Redeploy.Text.Form

/-
  Targets of requests.

  Key definitions include:
    * `Target`
    * `Target.parse?`

  The text of a target has a path, then a query after the
  first question mark, if there is one.  A number sign ends
  the target, and what follows it is not looked at.
-/

------------------------------------------------------------
-- Targets
------------------------------------------------------------

namespace Redeploy

structure Target where
  /- As it is written. -/
  path : String
  /- The names and values of the query, in order. -/
  query : List (String × String) := []
deriving DecidableEq

end Redeploy

------------------------------------------------------------
-- Reading
------------------------------------------------------------

namespace Redeploy

namespace Target

/- The length in bytes that the text of a target may have. -/
def maxLength : Nat := 0xFFFE

/- Whether a character is visible or beyond ASCII, and is no
   angle bracket. -/
def isVisible
    (c : Char) : Bool :=
  0x20 < c.toNat && c != '\x7f' && c != '<' && c != '>'

/- Whether a character may stand in a path. -/
def inPath
    (c : Char) : Bool :=
  isVisible c && c != '\x60'

/- Whether a character may stand in a query. -/
def inQuery
    (c : Char) : Bool :=
  isVisible c && c != '"'

/- The target of a text, unless the text is too long or
   holds a character that has no place there. -/
def parse?
    (text : String) : Option Target :=
  let cs := text.toList.takeWhile (· != '#')
  let path := cs.takeWhile (· != '?')
  let query := (cs.dropWhile (· != '?')).tail
  if text.utf8ByteSize ≤ maxLength && path.all inPath &&
      query.all inQuery then
    some {
      path := String.ofList path
      query := Text.Form.pairs query }
  else none

end Target

end Redeploy
