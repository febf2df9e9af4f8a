import Redeploy.Json.Reader

/-
  The grammar of JSON.

  Key definitions include:
    * `Json.Blanks`
    * `Json.SpellsPiece`, `Json.SpellsPieces`
    * `Json.SpellsNumber`
    * `Json.Spells`, `Json.Padded`

  A text spells a value if the grammar derives it, with any
  blanks between two tokens.  Each constructor stands for one
  production and says nothing of how a text is read.
-/

------------------------------------------------------------
-- Blanks
------------------------------------------------------------

namespace Redeploy

namespace Json

/- Whether there is nothing but blanks. -/
def Blanks
    (cs : List Char) : Prop :=
  ∀ c ∈ cs, isBlank c = true

theorem blanks_nil : Blanks [] := by
  intro c h
  cases h

end Json

end Redeploy

------------------------------------------------------------
-- Strings
------------------------------------------------------------

namespace Redeploy

namespace Json

open Redeploy.Text (hexValue?)

/- The piece of a code: half of a surrogate pair, or the
   character. -/
inductive PieceOf : Nat → Piece → Prop where
  | half
      {code : Nat}
      (hLow : 0xD800 ≤ code)
      (hHigh : code < 0xE000) :
      PieceOf code (.half code)
  | char
      {code : Nat}
      (hCode : code < 0xD800 ∨ 0xE000 ≤ code) :
      PieceOf code (.char (Char.ofNat code))

/- Whether characters between the quotes spell a piece. -/
inductive SpellsPiece : Piece → List Char → Prop where
  /- A character stands for itself if it is no control
     character, quote or backslash. -/
  | plain
      {c : Char}
      (hControl : 0x20 ≤ c.toNat)
      (hQuote : c ≠ '"')
      (hBackslash : c ≠ '\\') :
      SpellsPiece (.char c) [c]
  | short
      {e c : Char}
      (hShort : shortEscape? e = some c) :
      SpellsPiece (.char c) ['\\', e]
  | code
      {a b c d : Char}
      {i j k l : Nat}
      {piece : Piece}
      (hFirst : hexValue? a = some i)
      (hSecond : hexValue? b = some j)
      (hThird : hexValue? c = some k)
      (hFourth : hexValue? d = some l)
      (hPiece :
        PieceOf (0x1000 * i + 0x100 * j + 0x10 * k + l)
          piece) :
      SpellsPiece piece ['\\', 'u', a, b, c, d]

/- Whether characters spell pieces, one after the other. -/
inductive SpellsPieces : List Piece → List Char → Prop where
  | nil :
      SpellsPieces [] []
  | cons
      {piece : Piece}
      {pieces : List Piece}
      {cs rest : List Char}
      (hPiece : SpellsPiece piece cs)
      (hRest : SpellsPieces pieces rest) :
      SpellsPieces (piece :: pieces) (cs ++ rest)

/- What a string of some pieces denotes. -/
def textOf
    (pieces : List Piece) : Text :=
  (joinPieces pieces).map String.ofList

/- Whether a quoted string denotes a text. -/
inductive SpellsText : Text → List Char → Prop where
  | quoted
      {pieces : List Piece}
      {cs : List Char}
      (hPieces : SpellsPieces pieces cs) :
      SpellsText (textOf pieces) ('"' :: (cs ++ ['"']))

end Json

end Redeploy

------------------------------------------------------------
-- Numbers
------------------------------------------------------------

namespace Redeploy

namespace Json

/- One digit or more. -/
structure Digits
    (cs : List Char) : Prop where
  ne_nil : cs ≠ []
  isDigit : ∀ c ∈ cs, c.isDigit = true

/- The whole part of a number. -/
inductive SpellsWhole : List Char → Prop where
  | zero :
      SpellsWhole ['0']
  | digits
      {d : Char}
      {ds : List Char}
      (hFirst : d ≠ '0')
      (hDigits : Digits (d :: ds)) :
      SpellsWhole (d :: ds)

/- The fraction of a number, which may be missing. -/
inductive SpellsFraction : List Char → Prop where
  | none :
      SpellsFraction []
  | some
      {ds : List Char}
      (hDigits : Digits ds) :
      SpellsFraction ('.' :: ds)

/- The exponent of a number, which may be missing. -/
inductive SpellsExponent : List Char → Prop where
  | none :
      SpellsExponent []
  | some
      {e : Char}
      {sign ds : List Char}
      (hMark : e = 'e' ∨ e = 'E')
      (hSign : sign = [] ∨ sign = ['+'] ∨ sign = ['-'])
      (hDigits : Digits ds) :
      SpellsExponent (e :: (sign ++ ds))

/- Whether characters are the literal of a number. -/
inductive SpellsNumber : List Char → Prop where
  | literal
      {minus whole fraction exponent : List Char}
      (hMinus : minus = [] ∨ minus = ['-'])
      (hWhole : SpellsWhole whole)
      (hFraction : SpellsFraction fraction)
      (hExponent : SpellsExponent exponent) :
      SpellsNumber (minus ++ whole ++ fraction ++ exponent)

end Json

end Redeploy

------------------------------------------------------------
-- Values
------------------------------------------------------------

namespace Redeploy

namespace Json

/- A member's key with the colon and the blanks around it. -/
inductive SpellsKey : Text → List Char → Prop where
  | key
      {text : Text}
      {before cs after : List Char}
      (hBefore : Blanks before)
      (hText : SpellsText text cs)
      (hAfter : Blanks after) :
      SpellsKey text (before ++ (cs ++ (after ++ [':'])))

mutual

/- Whether a text spells a value, without blanks around
   it. -/
inductive Spells : Json → List Char → Prop where
  | null :
      Spells .null ['n', 'u', 'l', 'l']
  | true :
      Spells (.bool true) ['t', 'r', 'u', 'e']
  | false :
      Spells (.bool false) ['f', 'a', 'l', 's', 'e']
  | number
      {literal : String}
      (hNumber : SpellsNumber literal.toList) :
      Spells (.number literal) literal.toList
  | string
      {text : Text}
      {cs : List Char}
      (hText : SpellsText text cs) :
      Spells (.string text) cs
  | emptyArray
      {inside : List Char}
      (hInside : Blanks inside) :
      Spells (.array []) ('[' :: (inside ++ [']']))
  | array
      {items : List Json}
      {cs : List Char}
      (hItems : SpellsItems items cs) :
      Spells (.array items) ('[' :: cs)
  | emptyObject
      {inside : List Char}
      (hInside : Blanks inside) :
      Spells (.object []) ('\x7b' :: (inside ++ ['\x7d']))
  | object
      {members : List (Text × Json)}
      {cs : List Char}
      (hMembers : SpellsMembers members cs) :
      Spells (.object members) ('\x7b' :: cs)

/- The same with blanks around it. -/
inductive Padded : Json → List Char → Prop where
  | blanks
      {value : Json}
      {before cs after : List Char}
      (hBefore : Blanks before)
      (hValue : Spells value cs)
      (hAfter : Blanks after) :
      Padded value (before ++ (cs ++ after))

/- One item or more, and the closing bracket. -/
inductive SpellsItems : List Json → List Char → Prop where
  | last
      {item : Json}
      {cs : List Char}
      (hItem : Padded item cs) :
      SpellsItems [item] (cs ++ [']'])
  | more
      {item : Json}
      {items : List Json}
      {cs rest : List Char}
      (hItem : Padded item cs)
      (hRest : SpellsItems items rest) :
      SpellsItems (item :: items) (cs ++ (',' :: rest))

/- One member or more, and the closing brace. -/
inductive SpellsMembers :
    List (Text × Json) → List Char → Prop where
  | last
      {key : Text}
      {value : Json}
      {ks cs : List Char}
      (hKey : SpellsKey key ks)
      (hValue : Padded value cs) :
      SpellsMembers [(key, value)] (ks ++ (cs ++ ['\x7d']))
  | more
      {key : Text}
      {value : Json}
      {members : List (Text × Json)}
      {ks cs rest : List Char}
      (hKey : SpellsKey key ks)
      (hValue : Padded value cs)
      (hRest : SpellsMembers members rest) :
      SpellsMembers ((key, value) :: members)
        (ks ++ (cs ++ (',' :: rest)))

end

end Json

end Redeploy
