import Mathlib.Data.List.DropRight
import Redeploy.Proofs.Json.Grammar

/-
  Every text of the grammar is read.

  Key definitions include:
    * `Json.Ends`
    * `Json.ReadsWithin`

  Main results:
    * `Json.readString_of_spells`
    * `Json.readNumber_of_spells`
    * `Json.readsWithin`
    * `Json.parse?_of_padded`

  A reader takes from the front of a text exactly what spells
  its token and leaves the rest.  What follows a number must
  not go on with it, which nothing in the grammar does.
-/

------------------------------------------------------------
-- Blanks
------------------------------------------------------------

namespace Redeploy

namespace Json

theorem skipBlanks_append
    {blanks : List Char}
    (hBlanks : Blanks blanks)
    (cs : List Char) :
    skipBlanks (blanks ++ cs) = skipBlanks cs :=
  List.dropWhile_append_of_pos hBlanks

theorem skipBlanks_cons
    {c : Char}
    (hBlank : isBlank c = false)
    (cs : List Char) :
    skipBlanks (c :: cs) = c :: cs :=
  List.dropWhile_cons_of_neg (by simp [hBlank])

theorem skipBlanks_skipBlanks
    (cs : List Char) :
    skipBlanks (skipBlanks cs) = skipBlanks cs :=
  List.dropWhile_idempotent isBlank cs

end Json

end Redeploy

------------------------------------------------------------
-- Strings
------------------------------------------------------------

namespace Redeploy

namespace Json

theorem hexPiece?_of_pieceOf
    {a b c d : Char}
    {i j k l : Nat}
    {piece : Piece}
    (hFirst : Text.hexValue? a = some i)
    (hSecond : Text.hexValue? b = some j)
    (hThird : Text.hexValue? c = some k)
    (hFourth : Text.hexValue? d = some l)
    (hPiece :
      PieceOf (0x1000 * i + 0x100 * j + 0x10 * k + l)
        piece) :
    hexPiece? a b c d = some piece := by
  unfold hexPiece?
  rw [hFirst, hSecond, hThird, hFourth]
  simp only [Option.bind_eq_bind, Option.bind_some,
    Option.pure_def]
  cases hPiece with
  | half hLow hHigh => rw [if_pos ⟨hLow, hHigh⟩]
  | char hCode => rw [if_neg (by omega)]

/- A piece is read from the front of a text. -/
theorem readPieces_piece
    {piece : Piece}
    {cs : List Char}
    (h : SpellsPiece piece cs)
    (rest : List Char) :
    readPieces (cs ++ rest) =
      (readPieces rest).map fun read =>
        (piece :: read.1, read.2) := by
  cases h with
  | @plain c hControl hQuote hBackslash =>
      have hPlain : ¬ (c.toNat < 0x20 ∨ c = '\\') := by
        rintro (hLow | hSame)
        · omega
        · exact hBackslash hSame
      rw [List.singleton_append,
        readPieces.eq_4 c rest
          (fun _ _ _ _ _ hSame _ => hBackslash hSame)
          (fun _ _ hSame _ => hBackslash hSame) hQuote,
        if_neg hPlain]
      cases readPieces rest <;> rfl
  | @short e c hShort =>
      have hNoCode : e ≠ 'u' := by
        rintro rfl
        cases hShort
      rw [List.cons_append, List.singleton_append,
        readPieces.eq_2 e rest
          (fun _ _ _ _ _ hSame _ => hNoCode hSame),
        hShort]
      cases readPieces rest <;> rfl
  | code hFirst hSecond hThird hFourth hPiece =>
      simp only [List.cons_append, List.nil_append]
      rw [readPieces.eq_1,
        hexPiece?_of_pieceOf hFirst hSecond hThird hFourth
          hPiece]
      cases readPieces rest <;> rfl

/- Pieces are read up to the closing quote. -/
theorem readPieces_of_spells
    {pieces : List Piece}
    {cs : List Char}
    (h : SpellsPieces pieces cs)
    (rest : List Char) :
    readPieces (cs ++ '"' :: rest) = some (pieces, rest) := by
  induction h with
  | nil => exact readPieces.eq_3 rest
  | cons hPiece hRest ih =>
      rw [List.append_assoc, readPieces_piece hPiece, ih]
      rfl

theorem readString_of_spells
    {text : Text}
    {cs : List Char}
    (h : SpellsText text cs)
    (rest : List Char) :
    ∃ inside, cs ++ rest = '"' :: inside ∧
      readString inside = some (text, rest) := by
  cases h with
  | @quoted pieces cs hPieces =>
      refine ⟨cs ++ '"' :: rest, by simp, ?_⟩
      unfold readString
      rw [readPieces_of_spells hPieces]
      rfl

end Json

end Redeploy

------------------------------------------------------------
-- Numbers
------------------------------------------------------------

namespace Redeploy

namespace Json

/- Whether a text does not go on with digits. -/
def NoDigit
    (rest : List Char) : Prop :=
  ∀ c ∈ rest.head?, c.isDigit = false

/- Whether a text does not go on with a number. -/
def Ends
    (rest : List Char) : Prop :=
  ∀ c ∈ rest.head?,
    c.isDigit = false ∧ c ≠ '.' ∧ c ≠ 'e' ∧ c ≠ 'E'

theorem Ends.noDigit
    {rest : List Char}
    (h : Ends rest) :
    NoDigit rest :=
  fun c hc => (h c hc).1

theorem ends_nil : Ends [] := by
  intro c hc
  cases hc

/- A blank ends a number, and so does what follows blanks. -/
theorem ends_blanks_append
    {blanks rest : List Char}
    (hBlanks : Blanks blanks)
    (hRest : Ends rest) :
    Ends (blanks ++ rest) := by
  cases blanks with
  | nil => exact hRest
  | cons b blanks =>
      intro c hc
      cases hc
      have hBlank : isBlank b = true :=
        hBlanks b (List.mem_cons_self ..)
      simp only [isBlank, Bool.or_eq_true, beq_iff_eq]
        at hBlank
      rcases hBlank with ((rfl | rfl) | rfl) | rfl <;> decide

/- Of such a text no digit is taken. -/
theorem NoDigit.takes_none
    {rest : List Char}
    (h : NoDigit rest) :
    rest.takeWhile Char.isDigit = [] ∧
      rest.dropWhile Char.isDigit = rest := by
  cases rest with
  | nil => exact ⟨rfl, rfl⟩
  | cons c rest =>
      have hDigit : ¬ c.isDigit = true := by
        simp [h c rfl]
      exact ⟨List.takeWhile_cons_of_neg hDigit,
        List.dropWhile_cons_of_neg hDigit⟩

theorem readDigits_append
    {digits rest : List Char}
    (hDigits : Digits digits)
    (hRest : NoDigit rest) :
    readDigits (digits ++ rest) = some (digits, rest) := by
  rcases hRest.takes_none with ⟨hTake, hDrop⟩
  unfold readDigits
  rw [List.takeWhile_append_of_pos hDigits.isDigit,
    List.dropWhile_append_of_pos hDigits.isDigit, hTake,
    hDrop, List.append_nil]
  cases digits with
  | nil => exact absurd rfl hDigits.ne_nil
  | cons d digits => rfl

theorem readWhole_append
    {whole rest : List Char}
    (hWhole : SpellsWhole whole)
    (hRest : NoDigit rest) :
    readWhole (whole ++ rest) = some (whole, rest) := by
  cases hWhole with
  | zero => rfl
  | @digits d ds hFirst hDigits =>
      rw [List.cons_append, readWhole.eq_2]
      · exact readDigits_append hDigits hRest
      · intro _ hSame
        exact hFirst (List.cons.inj hSame).1

theorem readFraction_append
    {fraction rest : List Char}
    (hFraction : SpellsFraction fraction)
    (hRest : NoDigit rest)
    (hDot : rest.head? ≠ some '.') :
    readFraction (fraction ++ rest) =
      some (fraction, rest) := by
  cases hFraction with
  | none =>
      rw [List.nil_append, readFraction.eq_2]
      rintro tail rfl
      exact hDot rfl
  | some hDigits =>
      rw [List.cons_append, readFraction.eq_1,
        readDigits_append hDigits hRest]
      rfl

/- A sign is read where a digit follows. -/
private theorem readSign_append
    {sign digits rest : List Char}
    (hSign : sign = [] ∨ sign = ['+'] ∨ sign = ['-'])
    (hDigits : Digits digits) :
    readSign (sign ++ (digits ++ rest)) =
      (sign, digits ++ rest) := by
  rcases hSign with rfl | rfl | rfl
  · cases digits with
    | nil => exact absurd rfl hDigits.ne_nil
    | cons d digits =>
        have hDigit : d.isDigit = true :=
          hDigits.isDigit d (List.mem_cons_self ..)
        rw [List.nil_append, List.cons_append,
          readSign.eq_3]
        · intro _ hSame
          rw [(List.cons.inj hSame).1] at hDigit
          cases hDigit
        · intro _ hSame
          rw [(List.cons.inj hSame).1] at hDigit
          cases hDigit
  · rfl
  · rfl

theorem readExponent_append
    {exponent rest : List Char}
    (hExponent : SpellsExponent exponent)
    (hRest : Ends rest) :
    readExponent (exponent ++ rest) =
      some (exponent, rest) := by
  cases hExponent with
  | none =>
      rw [List.nil_append, readExponent.eq_3]
      · rintro tail rfl
        exact (hRest 'e' rfl).2.2.1 rfl
      · rintro tail rfl
        exact (hRest 'E' rfl).2.2.2 rfl
  | @some e sign ds hMark hSign hDigits =>
      have hRead :
          readExponent.mark e (sign ++ (ds ++ rest)) =
            some (e :: (sign ++ ds), rest) := by
        unfold readExponent.mark
        rw [readSign_append hSign hDigits]
        dsimp only
        rw [readDigits_append hDigits hRest.noDigit]
        rfl
      rw [List.cons_append, List.append_assoc]
      rcases hMark with rfl | rfl
      · exact hRead
      · exact hRead

/- After a fraction there is an exponent or the end. -/
private theorem exponent_follows
    {exponent rest : List Char}
    (hExponent : SpellsExponent exponent)
    (hRest : Ends rest) :
    NoDigit (exponent ++ rest) ∧
      (exponent ++ rest).head? ≠ some '.' := by
  cases hExponent with
  | none =>
      refine ⟨hRest.noDigit, fun hDot => ?_⟩
      exact (hRest '.' hDot).2.1 rfl
  | some hMark _ _ =>
      rcases hMark with rfl | rfl
      · exact ⟨by rintro c ⟨⟩; decide, by simp⟩
      · exact ⟨by rintro c ⟨⟩; decide, by simp⟩

/- After the whole part there is no digit. -/
private theorem fraction_follows
    {fraction rest : List Char}
    (hFraction : SpellsFraction fraction)
    (hRest : NoDigit rest) :
    NoDigit (fraction ++ rest) := by
  cases hFraction with
  | none => exact hRest
  | some _ =>
      rintro c ⟨⟩
      decide

/- The whole part begins with a digit. -/
private theorem SpellsWhole.head
    {whole : List Char}
    (h : SpellsWhole whole) :
    ∃ d ds, whole = d :: ds ∧ d.isDigit = true := by
  cases h with
  | zero => exact ⟨'0', [], rfl, rfl⟩
  | @digits d ds _ hDigits =>
      exact ⟨d, ds, rfl,
        hDigits.isDigit d (List.mem_cons_self ..)⟩

private theorem readMinus_append
    {minus whole rest : List Char}
    (hMinus : minus = [] ∨ minus = ['-'])
    (hWhole : SpellsWhole whole) :
    readMinus (minus ++ (whole ++ rest)) =
      (minus, whole ++ rest) := by
  rcases hMinus with rfl | rfl
  · rcases hWhole.head with ⟨d, ds, rfl, hDigit⟩
    rw [List.nil_append, List.cons_append, readMinus.eq_2]
    intro _ hSame
    rw [(List.cons.inj hSame).1] at hDigit
    cases hDigit
  · rfl

/- A number is read up to what ends it. -/
theorem readNumber_of_spells
    {cs rest : List Char}
    (h : SpellsNumber cs)
    (hRest : Ends rest) :
    readNumber (cs ++ rest) =
      some (String.ofList cs, rest) := by
  cases h with
  | @literal minus whole fraction exponent hMinus hWhole
      hFraction hExponent =>
      rcases exponent_follows hExponent hRest with
        ⟨hNoDigit, hNoDot⟩
      unfold readNumber
      rw [List.append_assoc, List.append_assoc,
        List.append_assoc, readMinus_append hMinus hWhole]
      dsimp only
      rw [readWhole_append hWhole
        (fraction_follows hFraction hNoDigit)]
      simp only [Option.bind_eq_bind, Option.bind_some]
      rw [readFraction_append hFraction hNoDigit hNoDot]
      simp only [Option.bind_some]
      rw [readExponent_append hExponent hRest]
      simp

theorem SpellsNumber.head
    {cs : List Char}
    (h : SpellsNumber cs) :
    ∃ c rest, cs = c :: rest ∧
      (c = '-' ∨ c.isDigit = true) := by
  cases h with
  | @literal minus whole _ _ hMinus hWhole =>
      rcases hMinus with rfl | rfl
      · rcases hWhole.head with ⟨d, ds, rfl, hDigit⟩
        exact ⟨d, _, rfl, .inr hDigit⟩
      · exact ⟨'-', _, rfl, .inl rfl⟩

end Json

end Redeploy

------------------------------------------------------------
-- Openings
------------------------------------------------------------

namespace Redeploy

namespace Json

/- Whether a text begins with a character that is neither a
   blank nor a closing bracket. -/
def Opens
    (cs : List Char) : Prop :=
  ∃ c rest, cs = c :: rest ∧ isBlank c = false ∧ c ≠ ']'

theorem Opens.append
    {cs : List Char}
    (h : Opens cs)
    (rest : List Char) :
    Opens (cs ++ rest) := by
  rcases h with ⟨c, tail, rfl, hBlank, hOpen⟩
  exact ⟨c, tail ++ rest, rfl, hBlank, hOpen⟩

theorem Opens.skipBlanks_eq
    {cs : List Char}
    (h : Opens cs) :
    skipBlanks cs = cs := by
  rcases h with ⟨c, tail, rfl, hBlank, -⟩
  exact skipBlanks_cons hBlank tail

/- What a number begins with begins nothing else. -/
theorem numberHead_ne
    {c d : Char}
    (hHead : c = '-' ∨ c.isDigit = true)
    (hOther : d ≠ '-' ∧ d.isDigit = false) :
    c ≠ d := by
  rintro rfl
  rcases hHead with hMinus | hDigit
  · exact hOther.1 hMinus
  · rw [hOther.2] at hDigit
    cases hDigit

theorem numberHead_isBlank
    {c : Char}
    (hHead : c = '-' ∨ c.isDigit = true) :
    isBlank c = false := by
  simp [isBlank, numberHead_ne hHead]

/- Every value begins with one of its own characters. -/
theorem Spells.opens
    {value : Json}
    {cs : List Char}
    (h : Spells value cs) :
    Opens cs := by
  cases h with
  | null => exact ⟨'n', _, rfl, by decide, by decide⟩
  | true => exact ⟨'t', _, rfl, by decide, by decide⟩
  | false => exact ⟨'f', _, rfl, by decide, by decide⟩
  | number hNumber =>
      rcases hNumber.head with ⟨c, rest, hText, hHead⟩
      exact ⟨c, rest, hText, numberHead_isBlank hHead,
        numberHead_ne hHead (by decide)⟩
  | string hText =>
      cases hText
      exact ⟨'"', _, rfl, by decide, by decide⟩
  | emptyArray _ => exact ⟨'[', _, rfl, by decide, by decide⟩
  | array _ => exact ⟨'[', _, rfl, by decide, by decide⟩
  | emptyObject _ =>
      exact ⟨'\x7b', _, rfl, by decide, by decide⟩
  | object _ => exact ⟨'\x7b', _, rfl, by decide, by decide⟩

theorem Opens.length_pos
    {cs : List Char}
    (h : Opens cs) :
    0 < cs.length := by
  rcases h with ⟨c, tail, rfl, -⟩
  exact Nat.succ_pos _

/- The blanks before a value are skipped, and nothing of the
   value is. -/
theorem Spells.skipBlanks_eq
    {value : Json}
    {before cs : List Char}
    (h : Spells value cs)
    (hBefore : Blanks before)
    (after rest : List Char) :
    skipBlanks (before ++ (cs ++ after) ++ rest) =
      cs ++ (after ++ rest) := by
  have hOpens := h.opens.append (after ++ rest)
  rw [List.append_assoc, skipBlanks_append hBefore,
    List.append_assoc, hOpens.skipBlanks_eq]

theorem Padded.opens
    {value : Json}
    {cs : List Char}
    (h : Padded value cs)
    (rest : List Char) :
    Opens (skipBlanks (cs ++ rest)) := by
  cases h with
  | @blanks _ before core after hBefore hCore _ =>
      rw [hCore.skipBlanks_eq hBefore after rest]
      exact hCore.opens.append (after ++ rest)

/- Items begin with a value. -/
theorem SpellsItems.opens
    {items : List Json}
    {cs : List Char}
    (h : SpellsItems items cs)
    (rest : List Char) :
    Opens (skipBlanks (cs ++ rest)) := by
  cases h with
  | last hItem =>
      rw [List.append_assoc]
      exact hItem.opens _
  | more hItem _ =>
      rw [List.append_assoc]
      exact hItem.opens _

/- A key begins with a quote, after the blanks before it. -/
theorem SpellsKey.skipBlanks_ne
    {key : Text}
    {cs : List Char}
    (h : SpellsKey key cs)
    (rest tail : List Char) :
    skipBlanks (cs ++ rest) ≠ '\x7d' :: tail := by
  cases h with
  | @key before core after hBefore hText _ =>
      cases hText
      rw [List.append_assoc, skipBlanks_append hBefore,
        List.cons_append, List.cons_append,
        skipBlanks_cons (by decide)]
      intro hSame
      cases (List.cons.inj hSame).1

/- Members begin with a key. -/
theorem SpellsMembers.skipBlanks_ne
    {members : List (Text × Json)}
    {cs : List Char}
    (h : SpellsMembers members cs)
    (rest tail : List Char) :
    skipBlanks (cs ++ rest) ≠ '\x7d' :: tail := by
  cases h with
  | last hFirst _ =>
      rw [List.append_assoc]
      exact hFirst.skipBlanks_ne _ _
  | more hFirst _ _ =>
      rw [List.append_assoc]
      exact hFirst.skipBlanks_ne _ _

theorem SpellsItems.length_pos
    {items : List Json}
    {cs : List Char}
    (h : SpellsItems items cs) :
    0 < cs.length := by
  cases h <;>
    simp only [List.length_append, List.length_cons] <;>
    omega

theorem SpellsMembers.length_pos
    {members : List (Text × Json)}
    {cs : List Char}
    (h : SpellsMembers members cs) :
    0 < cs.length := by
  cases h <;>
    simp only [List.length_append, List.length_cons] <;>
    omega

end Json

end Redeploy

------------------------------------------------------------
-- Single Readers
------------------------------------------------------------

namespace Redeploy

namespace Json

variable {fuel : Nat}
variable {cs rest : List Char}

/- Blanks before a value, an item or a key are skipped. -/
theorem readValue_skipBlanks
    (fuel : Nat)
    (cs : List Char) :
    readValue fuel (skipBlanks cs) = readValue fuel cs := by
  cases fuel with
  | zero => rfl
  | succ fuel =>
      rw [readValue, readValue, skipBlanks_skipBlanks]

theorem readItems_skipBlanks
    (fuel : Nat)
    (cs : List Char) :
    readItems fuel (skipBlanks cs) = readItems fuel cs := by
  cases fuel with
  | zero => rfl
  | succ fuel =>
      rw [readItems, readItems, readValue_skipBlanks]

theorem readMembers_skipBlanks
    (fuel : Nat)
    (cs : List Char) :
    readMembers fuel (skipBlanks cs) =
      readMembers fuel cs := by
  have hKey : readKey (skipBlanks cs) = readKey cs := by
    unfold readKey
    rw [skipBlanks_skipBlanks]
  cases fuel with
  | zero => rfl
  | succ fuel => rw [readMembers, readMembers, hKey]

/- What begins like a number is read as one. -/
theorem readValue_number
    {c : Char}
    (hHead : c = '-' ∨ c.isDigit = true) :
    readValue (fuel + 1) (c :: cs) =
      (readNumber (c :: cs)).map fun read =>
        (.number read.1, read.2) := by
  have hOther
      {d : Char}
      {ds : List Char}
      (hSame : c :: cs = d :: ds)
      (hNumber : d ≠ '-' ∧ d.isDigit = false) : False :=
    numberHead_ne hHead hNumber (List.cons.inj hSame).1
  rw [readValue, skipBlanks_cons (numberHead_isBlank hHead)]
  split
  next hNull => exact (hOther hNull (by decide)).elim
  next hTrue => exact (hOther hTrue (by decide)).elim
  next hFalse => exact (hOther hFalse (by decide)).elim
  next hString => exact (hOther hString (by decide)).elim
  next hArray => exact (hOther hArray (by decide)).elim
  next hObject => exact (hOther hObject (by decide)).elim
  next => cases readNumber (c :: cs) <;> rfl

theorem readValue_string
    {text : Text}
    (h : readString cs = some (text, rest)) :
    readValue (fuel + 1) ('"' :: cs) =
      some (.string text, rest) := by
  rw [readValue, skipBlanks_cons (by decide)]
  simp only [h]
  rfl

/- After an opening bracket there is the closing one or an
   item. -/
theorem readValue_bracket
    (fuel : Nat)
    (cs : List Char) :
    readValue (fuel + 1) ('[' :: cs) =
      match skipBlanks cs with
      | ']' :: rest => some (.array [], rest)
      | rest =>
          (readItems fuel rest).map fun read =>
            (.array read.1, read.2) := by
  rw [readValue, skipBlanks_cons (by decide)]
  simp only [Option.map_eq_bind]
  rfl

/- After an opening brace there is the closing one or a
   member. -/
theorem readValue_brace
    (fuel : Nat)
    (cs : List Char) :
    readValue (fuel + 1) ('\x7b' :: cs) =
      match skipBlanks cs with
      | '\x7d' :: rest => some (.object [], rest)
      | rest =>
          (readMembers fuel rest).map fun read =>
            (.object read.1, read.2) := by
  rw [readValue, skipBlanks_cons (by decide)]
  simp only [Option.map_eq_bind]
  rfl

theorem readValue_array
    {items : List Json}
    (hOpens : Opens (skipBlanks cs))
    (h : readItems fuel cs = some (items, rest)) :
    readValue (fuel + 1) ('[' :: cs) =
      some (.array items, rest) := by
  rw [readValue_bracket]
  split
  next hClose =>
    rcases hOpens with ⟨c, tail, hText, -, hOpen⟩
    rw [hText] at hClose
    exact absurd (List.cons.inj hClose).1 hOpen
  next =>
    rw [readItems_skipBlanks, h]
    rfl

theorem readValue_object
    {members : List (Text × Json)}
    (hOpens : ∀ tail, skipBlanks cs ≠ '\x7d' :: tail)
    (h : readMembers fuel cs = some (members, rest)) :
    readValue (fuel + 1) ('\x7b' :: cs) =
      some (.object members, rest) := by
  rw [readValue_brace]
  split
  next hClose => exact absurd hClose (hOpens _)
  next =>
    rw [readMembers_skipBlanks, h]
    rfl

/- A key is read up to and with its colon. -/
theorem readKey_of_spells
    {key : Text}
    (h : SpellsKey key cs)
    (rest : List Char) :
    readKey (cs ++ rest) = some (key, rest) := by
  cases h with
  | @key before core after hBefore hText hAfter =>
      rcases readString_of_spells hText
          (after ++ (':' :: rest)) with
        ⟨inside, hQuoted, hRead⟩
      have hSkip :
          skipBlanks
              (before ++ (core ++ (after ++ [':'])) ++ rest) =
            '"' :: inside := by
        rw [List.append_assoc, skipBlanks_append hBefore]
        simp only [List.append_assoc, List.singleton_append]
        rw [hQuoted, skipBlanks_cons (by decide)]
      have hColon :
          skipBlanks (after ++ (':' :: rest)) =
            ':' :: rest := by
        rw [skipBlanks_append hAfter,
          skipBlanks_cons (by decide)]
      unfold readKey
      rw [hSkip]
      simp only [hRead, Option.bind_eq_bind,
        Option.bind_some, hColon]

end Json

end Redeploy

------------------------------------------------------------
-- Values
------------------------------------------------------------

namespace Redeploy

namespace Json

/-
  Whether all texts that some fuel is enough for are read.
  Each character takes two calls at most, and a list of items
  or of members one call less, since its closing character
  takes none.
-/
structure ReadsWithin
    (fuel : Nat) : Prop where
  value :
    ∀ {value : Json} {cs rest : List Char},
      Spells value cs → 2 * cs.length ≤ fuel → Ends rest →
      readValue fuel (cs ++ rest) = some (value, rest)
  items :
    ∀ {items : List Json} {cs : List Char}
      (rest : List Char),
      SpellsItems items cs → 2 * cs.length ≤ fuel + 1 →
      readItems fuel (cs ++ rest) = some (items, rest)
  members :
    ∀ {members : List (Text × Json)} {cs : List Char}
      (rest : List Char),
      SpellsMembers members cs →
      2 * cs.length ≤ fuel + 1 →
      readMembers fuel (cs ++ rest) = some (members, rest)

namespace ReadsWithin

variable {fuel : Nat}

/- Blanks around a value are left to what follows. -/
theorem padded
    {value : Json}
    {cs rest : List Char}
    (h : ReadsWithin fuel)
    (hValue : Padded value cs)
    (hFuel : 2 * cs.length ≤ fuel)
    (hRest : Ends rest) :
    ∃ left, readValue fuel (cs ++ rest) =
        some (value, left) ∧
      skipBlanks left = skipBlanks rest := by
  cases hValue with
  | @blanks _ before core after hBefore hCore hAfter =>
      refine ⟨after ++ rest, ?_, skipBlanks_append hAfter _⟩
      have hEnds := ends_blanks_append hAfter hRest
      have hLength : 2 * core.length ≤ fuel := by
        simp only [List.length_append] at hFuel
        omega
      rw [← readValue_skipBlanks,
        hCore.skipBlanks_eq hBefore after rest]
      exact h.value hCore hLength hEnds

/- A comma or a closing character ends a number. -/
private theorem ends_cons
    {c : Char}
    (hNumber :
      c.isDigit = false ∧ c ≠ '.' ∧ c ≠ 'e' ∧ c ≠ 'E')
    (rest : List Char) :
    Ends (c :: rest) := by
  rintro d ⟨⟩
  exact hNumber

theorem value_succ
    {value : Json}
    {cs rest : List Char}
    (h : ReadsWithin fuel)
    (hValue : Spells value cs)
    (hFuel : 2 * cs.length ≤ fuel + 1)
    (hRest : Ends rest) :
    readValue (fuel + 1) (cs ++ rest) =
      some (value, rest) := by
  cases hValue with
  | null => rfl
  | true => rfl
  | false => rfl
  | @number literal hNumber =>
      have hRead := readNumber_of_spells hNumber hRest
      rcases hNumber.head with ⟨c, tail, hText, hHead⟩
      rw [hText] at hRead ⊢
      rw [List.cons_append] at hRead ⊢
      rw [readValue_number hHead, hRead, ← hText,
        String.ofList_toList]
      rfl
  | string hText =>
      rcases readString_of_spells hText rest with
        ⟨inside, hQuoted, hRead⟩
      rw [hQuoted]
      exact readValue_string hRead
  | emptyArray hInside =>
      rw [List.cons_append, readValue_bracket,
        List.append_assoc, skipBlanks_append hInside]
      rfl
  | array hItems =>
      rw [List.length_cons] at hFuel
      exact readValue_array (hItems.opens rest)
        (h.items rest hItems (by omega))
  | emptyObject hInside =>
      rw [List.cons_append, readValue_brace,
        List.append_assoc, skipBlanks_append hInside]
      rfl
  | object hMembers =>
      rw [List.length_cons] at hFuel
      exact readValue_object (hMembers.skipBlanks_ne rest)
        (h.members rest hMembers (by omega))

theorem items_succ
    {items : List Json}
    {cs : List Char}
    (h : ReadsWithin fuel)
    (hItems : SpellsItems items cs)
    (hFuel : 2 * cs.length ≤ fuel + 2)
    (rest : List Char) :
    readItems (fuel + 1) (cs ++ rest) =
      some (items, rest) := by
  cases hItems with
  | last hItem =>
      simp only [List.length_append, List.length_singleton]
        at hFuel
      have hEnds : Ends (']' :: rest) :=
        ends_cons (by decide) rest
      rcases h.padded hItem (by omega) hEnds with
        ⟨left, hRead, hSkip⟩
      rw [List.append_assoc, List.singleton_append,
        readItems, hRead]
      simp only [Option.bind_eq_bind, Option.bind_some]
      rw [hSkip]
      rfl
  | @more item items cs tail hItem hRest =>
      simp only [List.length_append, List.length_cons]
        at hFuel
      have hEnds : Ends (',' :: (tail ++ rest)) :=
        ends_cons (by decide) _
      rcases h.padded hItem (by omega) hEnds with
        ⟨left, hRead, hSkip⟩
      rw [List.append_assoc, List.cons_append, readItems,
        hRead]
      simp only [Option.bind_eq_bind, Option.bind_some]
      rw [hSkip, skipBlanks_cons (by decide)]
      simp only [h.items rest hRest (by omega),
        Option.bind_some]
      rfl

theorem members_succ
    {members : List (Text × Json)}
    {cs : List Char}
    (h : ReadsWithin fuel)
    (hMembers : SpellsMembers members cs)
    (hFuel : 2 * cs.length ≤ fuel + 2)
    (rest : List Char) :
    readMembers (fuel + 1) (cs ++ rest) =
      some (members, rest) := by
  cases hMembers with
  | @last key value ks cs hKey hValue =>
      simp only [List.length_append, List.length_singleton]
        at hFuel
      have hEnds : Ends ('\x7d' :: rest) :=
        ends_cons (by decide) rest
      rcases h.padded hValue (by omega) hEnds with
        ⟨left, hRead, hSkip⟩
      rw [List.append_assoc, List.append_assoc,
        List.singleton_append, readMembers,
        readKey_of_spells hKey]
      simp only [Option.bind_eq_bind, Option.bind_some]
      rw [hRead]
      simp only [Option.bind_some]
      rw [hSkip]
      rfl
  | @more key value members ks cs tail hKey hValue hRest =>
      simp only [List.length_append, List.length_cons]
        at hFuel
      have hEnds : Ends (',' :: (tail ++ rest)) :=
        ends_cons (by decide) _
      rcases h.padded hValue (by omega) hEnds with
        ⟨left, hRead, hSkip⟩
      rw [List.append_assoc, List.append_assoc,
        List.cons_append, readMembers,
        readKey_of_spells hKey]
      simp only [Option.bind_eq_bind, Option.bind_some]
      rw [hRead]
      simp only [Option.bind_some]
      rw [hSkip, skipBlanks_cons (by decide)]
      simp only [h.members rest hRest (by omega),
        Option.bind_some]
      rfl

end ReadsWithin

/- All texts of the grammar are read, given the fuel. -/
theorem readsWithin
    (fuel : Nat) :
    ReadsWithin fuel := by
  induction fuel with
  | zero =>
      refine ⟨?_, ?_, ?_⟩
      · intro value cs rest hValue hFuel _
        have := hValue.opens.length_pos
        omega
      · intro items cs rest hItems hFuel
        have := hItems.length_pos
        omega
      · intro members cs rest hMembers hFuel
        have := hMembers.length_pos
        omega
  | succ fuel ih =>
      exact
        { value := ih.value_succ
          items := fun rest hItems hFuel =>
            ih.items_succ hItems hFuel rest
          members := fun rest hMembers hFuel =>
            ih.members_succ hMembers hFuel rest }

/- A whole text that spells a value is read as that value. -/
theorem parse?_of_padded
    {s : String}
    {value : Json}
    (h : Padded value s.toList) :
    parse? s = some value := by
  rcases (readsWithin (2 * s.toList.length + 2)).padded h
      (by omega) ends_nil with
    ⟨left, hRead, hSkip⟩
  rw [List.append_nil] at hRead
  unfold parse?
  rw [hRead]
  dsimp only
  rw [hSkip]
  rfl

end Json

end Redeploy
