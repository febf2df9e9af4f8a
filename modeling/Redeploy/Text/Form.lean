import Redeploy.Text.Hexadecimal
import Redeploy.Text.Utf8

/-
  Names and values as the query of a target has them.

  Key definitions include:
    * `Form.encode`
    * `Form.decode`
    * `Form.pairs`

  A space is written as a plus sign, and every byte that is
  no letter, no digit and none of `*-._` as a percent sign
  with two hexadecimal digits.  A percent sign that no such
  digits follow stands for itself.
-/

------------------------------------------------------------
-- Writing
------------------------------------------------------------

namespace Redeploy

namespace Text

namespace Form

/- Whether a character is written as it is. -/
def isBare
    (c : Char) : Bool :=
  c.isAlphanum || c == '*' || c == '-' || c == '.' || c == '_'

/- A byte as it is written. -/
def encodeByte
    (b : UInt8) : List Char :=
  let c := Char.ofNat b.toNat
  if c = ' ' then ['+']
  else if isBare c then [c]
  else
    ['%', (hexDigit (b.toNat / 16)).toUpper,
      (hexDigit (b.toNat % 16)).toUpper]

def encode
    (s : String) : String :=
  String.ofList ((Utf8.encode s.toList).flatMap encodeByte)

end Form

end Text

end Redeploy

------------------------------------------------------------
-- Reading
------------------------------------------------------------

namespace Redeploy

namespace Text

namespace Form

/- The byte of two hexadecimal digits. -/
def hexByte?
    (high low : Char) : Option UInt8 := do
  return UInt8.ofNat
    (16 * (← hexValue? high) + (← hexValue? low))

/- The bytes that are written. -/
def bytes : List Char → List UInt8
  | '+' :: rest => 0x20 :: bytes rest
  | '%' :: high :: low :: rest =>
      match hexByte? high low with
      | some b => b :: bytes rest
      | none => 0x25 :: bytes (high :: low :: rest)
  | c :: rest => String.utf8EncodeChar c ++ bytes rest
  | [] => []

def decode
    (cs : List Char) : String :=
  String.ofList (Utf8.decode (bytes cs))

/- A name and its value, with an equals sign between them;
   without one the value is empty. -/
def pair
    (piece : List Char) : String × String :=
  (decode (piece.takeWhile (· != '=')),
    decode (piece.dropWhile (· != '=')).tail)

/- The names and values of a query. -/
def pairs
    (query : List Char) : List (String × String) :=
  ((query.splitOn '&').filter (!·.isEmpty)).map pair

end Form

end Text

end Redeploy
