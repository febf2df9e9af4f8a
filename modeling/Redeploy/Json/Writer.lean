import Redeploy.Json.Basic
import Redeploy.Text.Hexadecimal

/-
  Compact JSON text.

  Key definitions include:
    * `Json.escapeChar`
    * `Json.writeString`
    * `Json.write`
    * `Json.render`

  Nothing stands between tokens.  A string escapes the
  quote, the backslash and the control characters below
  U+0020, and writes all other characters as they are.
-/

------------------------------------------------------------
-- Strings
------------------------------------------------------------

namespace Redeploy

namespace Json

open Redeploy.Text (hexDigit)

/- A character as it stands in a string. -/
def escapeChar
    (c : Char) : List Char :=
  if c = '"' then ['\\', '"']
  else if c = '\\' then ['\\', '\\']
  else if c = '\x08' then ['\\', 'b']
  else if c = '\x0c' then ['\\', 'f']
  else if c = '\n' then ['\\', 'n']
  else if c = '\r' then ['\\', 'r']
  else if c = '\t' then ['\\', 't']
  else if c.toNat < 0x20 then
    ['\\', 'u', '0', '0',
      hexDigit (c.toNat / 16), hexDigit (c.toNat % 16)]
  else [c]

/- What stands between the quotes of a string. -/
def escapeText
    (s : String) : List Char :=
  s.toList.flatMap escapeChar

/- A string, with half a surrogate pair if it has no text. -/
def writeString : Text → List Char
  | some s => '"' :: (escapeText s ++ ['"'])
  | none => "\"\\ud800\"".toList

end Json

end Redeploy

------------------------------------------------------------
-- Values
------------------------------------------------------------

namespace Redeploy

namespace Json

mutual

/- The text of a value. -/
def write : Json → List Char
  | .null => "null".toList
  | .bool true => "true".toList
  | .bool false => "false".toList
  | .number literal => literal.toList
  | .string text => writeString text
  | .array items => '[' :: writeItems items
  | .object members => '\x7b' :: writeMembers members

/- The items of an array and its closing bracket. -/
def writeItems : List Json → List Char
  | [] => [']']
  | [item] => write item ++ [']']
  | item :: next :: rest =>
      write item ++ ',' :: writeItems (next :: rest)

/- The members of an object and its closing brace. -/
def writeMembers : List (Text × Json) → List Char
  | [] => ['\x7d']
  | [(key, value)] =>
      writeString key ++ ':' :: (write value ++ ['\x7d'])
  | (key, value) :: next :: rest =>
      writeString key ++ ':' ::
        (write value ++ ',' :: writeMembers (next :: rest))

end

/- The text of a value. -/
def render
    (value : Json) : String :=
  String.ofList value.write

end Json

end Redeploy
