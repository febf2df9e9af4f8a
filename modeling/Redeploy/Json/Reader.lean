import Redeploy.Json.Basic
import Redeploy.Text.Hexadecimal

/-
  Reading JSON text.

  Key definitions include:
    * `Json.readString`
    * `Json.readNumber`
    * `Json.readValue`
    * `Json.parse?`

  The reader accepts one value of the JSON grammar with
  blanks around it, and nothing more: only space, tab, line
  feed and carriage return are blanks, a number has no
  leading zero, and a string holds no raw control character
  below U+0020.  Values nest to any depth.
-/

------------------------------------------------------------
-- Blanks
------------------------------------------------------------

namespace Redeploy

namespace Json

def isBlank
    (c : Char) : Bool :=
  c == ' ' || c == '\t' || c == '\n' || c == '\r'

def skipBlanks
    (cs : List Char) : List Char :=
  cs.dropWhile isBlank

end Json

end Redeploy

------------------------------------------------------------
-- Strings
------------------------------------------------------------

namespace Redeploy

namespace Json

open Redeploy.Text (hexValue?)

/- A part of a string: a character, or half of a surrogate
   pair given by its escape. -/
inductive Piece where
  | char (c : Char)
  | half (code : Nat)
deriving DecidableEq

/- The piece that four hexadecimal digits name. -/
def hexPiece?
    (a b c d : Char) : Option Piece := do
  let code :=
    0x1000 * (← hexValue? a) + 0x100 * (← hexValue? b) +
      0x10 * (← hexValue? c) + (← hexValue? d)
  if 0xD800 ≤ code ∧ code < 0xE000 then
    return .half code
  else return .char (Char.ofNat code)

/- The character after a backslash, `u` apart. -/
def shortEscape? : Char → Option Char
  | '"' => some '"'
  | '\\' => some '\\'
  | '/' => some '/'
  | 'b' => some '\x08'
  | 'f' => some '\x0c'
  | 'n' => some '\n'
  | 'r' => some '\r'
  | 't' => some '\t'
  | _ => none

/-
  The pieces of a string up to its closing quote, and what
  follows.  The opening quote has been read.
-/
def readPieces :
    List Char → Option (List Piece × List Char)
  | '\\' :: 'u' :: a :: b :: c :: d :: rest => do
      let piece ← hexPiece? a b c d
      let (pieces, rest) ← readPieces rest
      return (piece :: pieces, rest)
  | '\\' :: e :: rest => do
      let c ← shortEscape? e
      let (pieces, rest) ← readPieces rest
      return (.char c :: pieces, rest)
  | '"' :: rest => some ([], rest)
  | c :: rest =>
      if c.toNat < 0x20 ∨ c = '\\' then none
      else do
        let (pieces, rest) ← readPieces rest
        return (.char c :: pieces, rest)
  | [] => none

/- The character of a surrogate pair. -/
def joinPair
    (high low : Nat) : Char :=
  Char.ofNat
    (0x10000 + 0x400 * (high - 0xD800) + (low - 0xDC00))

/- The characters of pieces, if no half stands alone. -/
def joinPieces : List Piece → Option (List Char)
  | [] => some []
  | .char c :: rest => (joinPieces rest).map (c :: ·)
  | .half high :: .half low :: rest =>
      if high < 0xDC00 ∧ 0xDC00 ≤ low then
        (joinPieces rest).map (joinPair high low :: ·)
      else none
  | .half _ :: _ => none

/- A string after its opening quote. -/
def readString
    (cs : List Char) : Option (Text × List Char) := do
  let (pieces, rest) ← readPieces cs
  return ((joinPieces pieces).map String.ofList, rest)

end Json

end Redeploy

------------------------------------------------------------
-- Numbers
------------------------------------------------------------

namespace Redeploy

namespace Json

/- The digits at the start of a text, at least one. -/
def readDigits
    (cs : List Char) : Option (List Char × List Char) :=
  match cs.takeWhile Char.isDigit with
  | [] => none
  | digits => some (digits, cs.dropWhile Char.isDigit)

/- The whole part of a number: a zero, or digits that do
   not begin with one. -/
def readWhole :
    List Char → Option (List Char × List Char)
  | '0' :: rest => some (['0'], rest)
  | cs => readDigits cs

/- The fraction of a number, if there is one. -/
def readFraction :
    List Char → Option (List Char × List Char)
  | '.' :: rest => do
      let (digits, rest) ← readDigits rest
      return ('.' :: digits, rest)
  | cs => some ([], cs)

/- The sign that a text begins with. -/
def readSign : List Char → List Char × List Char
  | '-' :: rest => (['-'], rest)
  | '+' :: rest => (['+'], rest)
  | cs => ([], cs)

/- The exponent of a number, if there is one. -/
def readExponent :
    List Char → Option (List Char × List Char)
  | 'e' :: rest => mark 'e' rest
  | 'E' :: rest => mark 'E' rest
  | cs => some ([], cs)
where
  mark
      (e : Char)
      (cs : List Char) :
      Option (List Char × List Char) := do
    let (sign, rest) := readSign cs
    let (digits, rest) ← readDigits rest
    return (e :: (sign ++ digits), rest)

/- The minus sign of a number, if there is one. -/
def readMinus : List Char → List Char × List Char
  | '-' :: rest => (['-'], rest)
  | cs => ([], cs)

/- The literal of a number. -/
def readNumber
    (cs : List Char) : Option (String × List Char) := do
  let (minus, rest) := readMinus cs
  let (whole, rest) ← readWhole rest
  let (fraction, rest) ← readFraction rest
  let (exponent, rest) ← readExponent rest
  let literal := minus ++ whole ++ fraction ++ exponent
  return (String.ofList literal, rest)

end Json

end Redeploy

------------------------------------------------------------
-- Values
------------------------------------------------------------

namespace Redeploy

namespace Json

/- A member's key and the colon after it. -/
def readKey
    (cs : List Char) : Option (Text × List Char) :=
  match skipBlanks cs with
  | '"' :: rest => do
      let (key, rest) ← readString rest
      match skipBlanks rest with
      | ':' :: rest => some (key, rest)
      | _ => none
  | _ => none

mutual

/- A value, after any blanks.  The fuel bounds the number of
   calls along one path. -/
def readValue :
    Nat → List Char → Option (Json × List Char)
  | 0, _ => none
  | fuel + 1, cs =>
      match skipBlanks cs with
      | 'n' :: 'u' :: 'l' :: 'l' :: rest =>
          some (.null, rest)
      | 't' :: 'r' :: 'u' :: 'e' :: rest =>
          some (.bool true, rest)
      | 'f' :: 'a' :: 'l' :: 's' :: 'e' :: rest =>
          some (.bool false, rest)
      | '"' :: rest => do
          let (text, rest) ← readString rest
          return (.string text, rest)
      | '[' :: rest =>
          match skipBlanks rest with
          | ']' :: rest => some (.array [], rest)
          | rest => do
              let (items, rest) ← readItems fuel rest
              return (.array items, rest)
      | '\x7b' :: rest =>
          match skipBlanks rest with
          | '\x7d' :: rest => some (.object [], rest)
          | rest => do
              let (members, rest) ← readMembers fuel rest
              return (.object members, rest)
      | cs => do
          let (literal, rest) ← readNumber cs
          return (.number literal, rest)

/- One item or more, and the closing bracket. -/
def readItems :
    Nat → List Char → Option (List Json × List Char)
  | 0, _ => none
  | fuel + 1, cs => do
      let (item, rest) ← readValue fuel cs
      match skipBlanks rest with
      | ']' :: rest => return ([item], rest)
      | ',' :: rest =>
          let (items, rest) ← readItems fuel rest
          return (item :: items, rest)
      | _ => none

/- One member or more, and the closing brace. -/
def readMembers :
    Nat → List Char →
      Option (List (Text × Json) × List Char)
  | 0, _ => none
  | fuel + 1, cs => do
      let (key, rest) ← readKey cs
      let (value, rest) ← readValue fuel rest
      match skipBlanks rest with
      | '\x7d' :: rest => return ([(key, value)], rest)
      | ',' :: rest =>
          let (members, rest) ← readMembers fuel rest
          return ((key, value) :: members, rest)
      | _ => none

end

/-
  The value of a whole text.  Two calls consume a character
  or end a path, so the fuel never runs out.
-/
def parse?
    (s : String) : Option Json :=
  match readValue (2 * s.toList.length + 2) s.toList with
  | some (value, rest) =>
      if (skipBlanks rest).isEmpty then some value else none
  | none => none

end Json

end Redeploy
