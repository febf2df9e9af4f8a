/-
  UTF-8.

  Key definitions include:
    * `Utf8.encode`
    * `Utf8.Pending`
    * `Utf8.decode`

  Any bytes can be decoded.  A byte that begins no character
  is read as one replacement character, and so are all the
  bytes of a character that breaks off.
-/

------------------------------------------------------------
-- Encoding
------------------------------------------------------------

namespace Redeploy

namespace Text

namespace Utf8

def encode
    (cs : List Char) : List UInt8 :=
  cs.flatMap String.utf8EncodeChar

end Utf8

end Text

end Redeploy

------------------------------------------------------------
-- Decoding
------------------------------------------------------------

namespace Redeploy

namespace Text

namespace Utf8

/- What is read in place of broken characters. -/
def replacement : Char := '\ufffd'

/- The beginning of a character. -/
structure Pending where
  /- What the bytes so far are worth. -/
  value : Nat
  /- The number of bytes to come. -/
  missing : Nat
  /- The bounds of the next byte. -/
  low : Nat := 0x80
  high : Nat := 0xBF

/-
  The first byte of a character.  The bounds of the second
  one leave out what shorter forms, halves of surrogate
  pairs and numbers beyond the last character would need.
-/
def first
    (b : Nat) : List Char × Option Pending :=
  if b < 0x80 then ([Char.ofNat b], none)
  else if b < 0xC2 then ([replacement], none)
  else if b < 0xE0 then
    ([], some { value := b - 0xC0, missing := 1 })
  else if b < 0xF0 then
    ([], some {
      value := b - 0xE0
      missing := 2
      low := if b = 0xE0 then 0xA0 else 0x80
      high := if b = 0xED then 0x9F else 0xBF })
  else if b < 0xF5 then
    ([], some {
      value := b - 0xF0
      missing := 3
      low := if b = 0xF0 then 0x90 else 0x80
      high := if b = 0xF4 then 0x8F else 0xBF })
  else ([replacement], none)

/- The next byte of a character, or the first one of another
   character. -/
def next
    (p : Pending)
    (b : Nat) : List Char × Option Pending :=
  if p.low ≤ b ∧ b ≤ p.high then
    let value := 0x40 * p.value + (b - 0x80)
    if p.missing ≤ 1 then ([Char.ofNat value], none)
    else ([], some { value, missing := p.missing - 1 })
  else
    let (cs, p) := first b
    (replacement :: cs, p)

/- A byte, after the beginning of a character or not. -/
def step
    (p : Option Pending)
    (b : Nat) : List Char × Option Pending :=
  match p with
  | some p => next p b
  | none => first b

/- The characters of bytes that may continue one. -/
def decodeFrom :
    Option Pending → List UInt8 → List Char
  | none, [] => []
  | some _, [] => [replacement]
  | p, b :: rest =>
      let (cs, p) := step p b.toNat
      cs ++ decodeFrom p rest

def decode
    (bytes : List UInt8) : List Char :=
  decodeFrom none bytes

end Utf8

end Text

end Redeploy
