import Redeploy.Json.Writer
import Redeploy.Proofs.Json.Reading

/-
  What is written spells what it was written for.

  Key definitions include:
    * `Json.Legible`

  Main results:
    * `Json.spellsPiece_escapeChar`
    * `Json.spells_write`
    * `Json.parse?_render`

  Whichever characters a string has, none of them ends it
  early: each is written as a piece of its own.  So a value
  is read back from its text, however deeply it nests.
-/

------------------------------------------------------------
-- Strings
------------------------------------------------------------

namespace Redeploy

namespace Json

theorem hexValue?_hexDigit :
    ∀ n < 16, Text.hexValue? (Text.hexDigit n) = some n := by
  decide

/- The escape of a control character names it. -/
private theorem spellsPiece_control
    {c : Char}
    (hControl : c.toNat < 0x20) :
    SpellsPiece (.char c)
      ['\\', 'u', '0', '0', Text.hexDigit (c.toNat / 16),
        Text.hexDigit (c.toNat % 16)] := by
  have hZero : Text.hexValue? '0' = some 0 := by decide
  have hHigh := hexValue?_hexDigit (c.toNat / 16) (by omega)
  have hLow := hexValue?_hexDigit (c.toNat % 16) (by omega)
  have hCode :
      0x1000 * 0 + 0x100 * 0 + 0x10 * (c.toNat / 16) +
        c.toNat % 16 = c.toNat := by
    omega
  refine .code hZero hZero hHigh hLow ?_
  rw [hCode]
  have hPiece : PieceOf c.toNat (.char (Char.ofNat c.toNat)) :=
    .char (.inl (by omega))
  rwa [Char.ofNat_toNat] at hPiece

/- A character is written as the piece that it is. -/
theorem spellsPiece_escapeChar
    (c : Char) :
    SpellsPiece (.char c) (escapeChar c) := by
  unfold escapeChar
  split
  next hQuote =>
    rw [hQuote]
    exact .short rfl
  split
  next hBackslash =>
    rw [hBackslash]
    exact .short rfl
  split
  next hBackspace =>
    rw [hBackspace]
    exact .short rfl
  split
  next hFormFeed =>
    rw [hFormFeed]
    exact .short rfl
  split
  next hLineFeed =>
    rw [hLineFeed]
    exact .short rfl
  split
  next hReturn =>
    rw [hReturn]
    exact .short rfl
  split
  next hTab =>
    rw [hTab]
    exact .short rfl
  split
  next hControl => exact spellsPiece_control hControl
  next hQuote hBackslash _ _ _ _ _ hControl =>
    exact .plain (by omega) hQuote hBackslash

theorem spellsPieces_escape
    (cs : List Char) :
    SpellsPieces (cs.map .char) (cs.flatMap escapeChar) := by
  induction cs with
  | nil => exact .nil
  | cons c cs ih => exact .cons (spellsPiece_escapeChar c) ih

/- Pieces that are characters make up a text. -/
theorem joinPieces_chars
    (cs : List Char) :
    joinPieces (cs.map .char) = some cs := by
  induction cs with
  | nil => rfl
  | cons c cs ih =>
      rw [List.map_cons, joinPieces, ih]
      rfl

theorem spellsText_writeString
    (s : String) :
    SpellsText (some s) (writeString (some s)) := by
  have hText : textOf (s.toList.map .char) = some s := by
    rw [textOf, joinPieces_chars, Option.map_some,
      String.ofList_toList]
  have hQuoted :=
    SpellsText.quoted (spellsPieces_escape s.toList)
  rwa [hText] at hQuoted

end Json

end Redeploy

------------------------------------------------------------
-- Values
------------------------------------------------------------

namespace Redeploy

namespace Json

mutual

/- Whether every string in a value names characters and every
   number in it is the literal of one. -/
def Legible : Json → Prop
  | .null => True
  | .bool _ => True
  | .number literal => SpellsNumber literal.toList
  | .string text => text.isSome = true
  | .array items => LegibleItems items
  | .object members => LegibleMembers members

def LegibleItems : List Json → Prop
  | [] => True
  | item :: rest => item.Legible ∧ LegibleItems rest

def LegibleMembers : List (Text × Json) → Prop
  | [] => True
  | (key, value) :: rest =>
      key.isSome = true ∧ value.Legible ∧
        LegibleMembers rest

end

/- What is written has no blanks around it. -/
private theorem Spells.padded
    {value : Json}
    {cs : List Char}
    (h : Spells value cs) :
    Padded value cs := by
  have hPadded := Padded.blanks blanks_nil h blanks_nil
  rwa [List.nil_append, List.append_nil] at hPadded

private theorem spellsText_of_isSome
    {text : Text}
    (h : text.isSome = true) :
    SpellsText text (writeString text) := by
  cases text with
  | none => cases h
  | some s => exact spellsText_writeString s

private theorem spellsKey_write
    {key : Text}
    (h : key.isSome = true) :
    SpellsKey key (writeString key ++ [':']) :=
  .key blanks_nil (spellsText_of_isSome h) blanks_nil

mutual

/- The text that is written for a value spells it. -/
theorem spells_write :
    ∀ value : Json, value.Legible →
      Spells value value.write
  | .null, _ => .null
  | .bool true, _ => .true
  | .bool false, _ => .false
  | .number _, h => .number h
  | .string _, h => .string (spellsText_of_isSome h)
  | .array [], _ => .emptyArray blanks_nil
  | .array (item :: rest), h =>
      .array (spellsItems_write (item :: rest) (by simp) h)
  | .object [], _ => .emptyObject blanks_nil
  | .object (member :: rest), h =>
      .object
        (spellsMembers_write (member :: rest) (by simp) h)

theorem spellsItems_write :
    ∀ items : List Json, items ≠ [] →
      LegibleItems items →
      SpellsItems items (writeItems items)
  | [], hItems, _ => absurd rfl hItems
  | [item], _, h => .last (spells_write item h.1).padded
  | item :: next :: rest, _, h =>
      .more (spells_write item h.1).padded
        (spellsItems_write (next :: rest) (by simp) h.2)

theorem spellsMembers_write :
    ∀ members : List (Text × Json), members ≠ [] →
      LegibleMembers members →
      SpellsMembers members (writeMembers members)
  | [], hMembers, _ => absurd rfl hMembers
  | [(key, value)], _, h => by
      have hLast :=
        SpellsMembers.last (spellsKey_write h.1)
          (spells_write value h.2.1).padded
      rwa [List.append_assoc] at hLast
  | (key, value) :: next :: rest, _, h => by
      have hMore :=
        SpellsMembers.more (spellsKey_write h.1)
          (spells_write value h.2.1).padded
          (spellsMembers_write (next :: rest) (by simp) h.2.2)
      rwa [List.append_assoc] at hMore

end

/- A value is read back from the text written for it. -/
theorem parse?_render
    {value : Json}
    (h : value.Legible) :
    parse? value.render = some value := by
  apply parse?_of_padded
  rw [render, String.toList_ofList]
  exact (spells_write value h).padded

end Json

end Redeploy
