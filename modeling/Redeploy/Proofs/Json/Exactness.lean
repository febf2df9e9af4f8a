import Redeploy.Proofs.Json.Reading

/-
  Only texts of the grammar are read.

  Key definitions include:
    * `Json.TakesWithin`

  Main results:
    * `Json.spellsText_of_readString`
    * `Json.spellsNumber_of_readNumber`
    * `Json.takesWithin`
    * `Json.padded_of_readValue`
    * `Json.parse?_eq_some_iff`

  What a reader takes from the front of a text spells the
  token that it returns, so the texts that are read are those
  of the grammar and no others.
-/

------------------------------------------------------------
-- Blanks
------------------------------------------------------------

namespace Redeploy

namespace Json

/- What is skipped before the rest of a text is blanks. -/
theorem exists_blanks
    {cs rest : List Char}
    (h : skipBlanks cs = rest) :
    ∃ blanks, Blanks blanks ∧ cs = blanks ++ rest := by
  subst h
  refine ⟨cs.takeWhile isBlank, ?_, ?_⟩
  · exact fun _ hMem => List.mem_takeWhile_imp hMem
  · exact List.takeWhile_append_dropWhile.symm

end Json

end Redeploy

------------------------------------------------------------
-- Strings
------------------------------------------------------------

namespace Redeploy

namespace Json

theorem spellsPiece_of_hexPiece?
    {a b c d : Char}
    {piece : Piece}
    (h : hexPiece? a b c d = some piece) :
    SpellsPiece piece ['\\', 'u', a, b, c, d] := by
  unfold hexPiece? at h
  simp only [Option.bind_eq_bind, Option.bind_eq_some_iff,
    Option.pure_def] at h
  rcases h with
    ⟨i, hFirst, j, hSecond, k, hThird, l, hFourth, hPiece⟩
  refine .code hFirst hSecond hThird hFourth ?_
  split at hPiece
  next hHalf =>
    cases hPiece
    exact .half hHalf.1 hHalf.2
  next hChar =>
    cases hPiece
    exact .char (by omega)

/- The pieces that are read are spelled up to the closing
   quote. -/
theorem spellsPieces_of_readPieces
    {cs rest : List Char}
    {pieces : List Piece}
    (h : readPieces cs = some (pieces, rest)) :
    ∃ inside, SpellsPieces pieces inside ∧
      cs = inside ++ '"' :: rest := by
  fun_induction readPieces cs generalizing pieces with
  | case1 a b c d tail ih =>
      simp only [Option.bind_eq_bind, Option.pure_def,
        Option.bind_eq_some_iff] at h
      rcases h with ⟨piece, hPiece, ⟨more, left⟩, hRead, hEq⟩
      cases hEq
      rcases ih hRead with ⟨inside, hInside, rfl⟩
      exact ⟨_, .cons (spellsPiece_of_hexPiece? hPiece)
        hInside, rfl⟩
  | case2 e tail _ ih =>
      simp only [Option.bind_eq_bind, Option.pure_def,
        Option.bind_eq_some_iff] at h
      rcases h with ⟨c, hShort, ⟨more, left⟩, hRead, hEq⟩
      cases hEq
      rcases ih hRead with ⟨inside, hInside, rfl⟩
      exact ⟨_, .cons (.short hShort) hInside, rfl⟩
  | case3 tail =>
      cases h
      exact ⟨[], .nil, rfl⟩
  | case4 => cases h
  | case5 c tail _ _ hQuote hPlain ih =>
      simp only [Option.bind_eq_bind, Option.pure_def,
        Option.bind_eq_some_iff] at h
      rcases h with ⟨⟨more, left⟩, hRead, hEq⟩
      cases hEq
      rcases ih hRead with ⟨inside, hInside, rfl⟩
      rcases not_or.mp hPlain with ⟨hControl, hBackslash⟩
      exact ⟨_, .cons (.plain (by omega) hQuote hBackslash)
        hInside, rfl⟩
  | case6 => cases h

theorem spellsText_of_readString
    {cs rest : List Char}
    {text : Text}
    (h : readString cs = some (text, rest)) :
    ∃ inside, SpellsText text ('"' :: (inside ++ ['"'])) ∧
      cs = inside ++ '"' :: rest := by
  unfold readString at h
  simp only [Option.bind_eq_bind, Option.pure_def,
    Option.bind_eq_some_iff] at h
  rcases h with ⟨⟨pieces, left⟩, hRead, hEq⟩
  cases hEq
  rcases spellsPieces_of_readPieces hRead with
    ⟨inside, hInside, rfl⟩
  exact ⟨inside, .quoted hInside, rfl⟩

end Json

end Redeploy

------------------------------------------------------------
-- Numbers
------------------------------------------------------------

namespace Redeploy

namespace Json

variable {cs rest : List Char}

theorem digits_of_readDigits
    {digits : List Char}
    (h : readDigits cs = some (digits, rest)) :
    Digits digits ∧ cs = digits ++ rest := by
  unfold readDigits at h
  split at h
  · cases h
  next hSome =>
    cases h
    refine ⟨⟨hSome, ?_⟩, ?_⟩
    · exact fun _ hMem => List.mem_takeWhile_imp hMem
    · exact List.takeWhile_append_dropWhile.symm

theorem spellsWhole_of_readWhole
    {whole : List Char}
    (h : readWhole cs = some (whole, rest)) :
    SpellsWhole whole ∧ cs = whole ++ rest := by
  unfold readWhole at h
  split at h
  · cases h
    exact ⟨.zero, rfl⟩
  next hFirst =>
    rcases digits_of_readDigits h with ⟨hDigits, rfl⟩
    cases whole with
    | nil => exact absurd rfl hDigits.ne_nil
    | cons d ds =>
        refine ⟨.digits ?_ hDigits, rfl⟩
        rintro rfl
        exact hFirst _ rfl

theorem spellsFraction_of_readFraction
    {fraction : List Char}
    (h : readFraction cs = some (fraction, rest)) :
    SpellsFraction fraction ∧ cs = fraction ++ rest := by
  unfold readFraction at h
  split at h
  · simp only [Option.bind_eq_bind, Option.pure_def,
      Option.bind_eq_some_iff] at h
    rcases h with ⟨⟨digits, left⟩, hRead, hEq⟩
    cases hEq
    rcases digits_of_readDigits hRead with ⟨hDigits, rfl⟩
    exact ⟨.some hDigits, rfl⟩
  · cases h
    exact ⟨.none, rfl⟩

theorem sign_of_readSign
    (cs : List Char) :
    ((readSign cs).1 = [] ∨ (readSign cs).1 = ['+'] ∨
        (readSign cs).1 = ['-']) ∧
      cs = (readSign cs).1 ++ (readSign cs).2 := by
  unfold readSign
  split
  · exact ⟨.inr (.inr rfl), rfl⟩
  · exact ⟨.inr (.inl rfl), rfl⟩
  · exact ⟨.inl rfl, rfl⟩

theorem spellsExponent_of_mark
    {e : Char}
    {exponent : List Char}
    (hMark : e = 'e' ∨ e = 'E')
    (h : readExponent.mark e cs = some (exponent, rest)) :
    SpellsExponent exponent ∧ e :: cs = exponent ++ rest := by
  unfold readExponent.mark at h
  rcases sign_of_readSign cs with ⟨hSign, hText⟩
  simp only [Option.bind_eq_bind, Option.pure_def,
    Option.bind_eq_some_iff] at h
  rcases h with ⟨⟨digits, left⟩, hRead, hEq⟩
  cases hEq
  rcases digits_of_readDigits hRead with ⟨hDigits, hLeft⟩
  refine ⟨.some hMark hSign hDigits, ?_⟩
  rw [List.cons_append, List.append_assoc, ← hLeft, ← hText]

theorem spellsExponent_of_readExponent
    {exponent : List Char}
    (h : readExponent cs = some (exponent, rest)) :
    SpellsExponent exponent ∧ cs = exponent ++ rest := by
  unfold readExponent at h
  split at h
  · exact spellsExponent_of_mark (.inl rfl) h
  · exact spellsExponent_of_mark (.inr rfl) h
  · cases h
    exact ⟨.none, rfl⟩

theorem minus_of_readMinus
    (cs : List Char) :
    ((readMinus cs).1 = [] ∨ (readMinus cs).1 = ['-']) ∧
      cs = (readMinus cs).1 ++ (readMinus cs).2 := by
  unfold readMinus
  split
  · exact ⟨.inr rfl, rfl⟩
  · exact ⟨.inl rfl, rfl⟩

theorem spellsNumber_of_readNumber
    {literal : String}
    (h : readNumber cs = some (literal, rest)) :
    SpellsNumber literal.toList ∧
      cs = literal.toList ++ rest := by
  unfold readNumber at h
  rcases minus_of_readMinus cs with ⟨hMinus, hText⟩
  simp only [Option.bind_eq_bind, Option.pure_def,
    Option.bind_eq_some_iff] at h
  rcases h with
    ⟨⟨whole, afterWhole⟩, hReadWhole,
      ⟨fraction, afterFraction⟩, hReadFraction,
      ⟨exponent, left⟩, hReadExponent, hEq⟩
  cases hEq
  rcases spellsWhole_of_readWhole hReadWhole with
    ⟨hWhole, hAfterMinus⟩
  rcases spellsFraction_of_readFraction hReadFraction with
    ⟨hFraction, rfl⟩
  rcases spellsExponent_of_readExponent hReadExponent with
    ⟨hExponent, rfl⟩
  rw [String.toList_ofList]
  refine ⟨.literal hMinus hWhole hFraction hExponent, ?_⟩
  rw [hAfterMinus] at hText
  rw [List.append_assoc, List.append_assoc,
    List.append_assoc]
  exact hText

end Json

end Redeploy

------------------------------------------------------------
-- Values
------------------------------------------------------------

namespace Redeploy

namespace Json

theorem spellsKey_of_readKey
    {cs rest : List Char}
    {key : Text}
    (h : readKey cs = some (key, rest)) :
    ∃ front, SpellsKey key front ∧ cs = front ++ rest := by
  unfold readKey at h
  split at h
  next tail hOpen =>
    simp only [Option.bind_eq_bind,
      Option.bind_eq_some_iff] at h
    rcases h with ⟨⟨text, left⟩, hRead, hRest⟩
    split at hRest
    next hColon =>
      cases hRest
      rcases exists_blanks hOpen with ⟨before, hBefore, rfl⟩
      rcases spellsText_of_readString hRead with
        ⟨inside, hText, rfl⟩
      rcases exists_blanks hColon with ⟨after, hAfter, rfl⟩
      exact ⟨_, .key hBefore hText hAfter, by simp⟩
    next => cases hRest
  next => cases h

/-
  Whether all that is read with some fuel spells what it is
  read as.  The blanks before a value are taken with it, and
  those after it are not.
-/
structure TakesWithin
    (fuel : Nat) : Prop where
  value :
    ∀ {value : Json} {cs rest : List Char},
      readValue fuel cs = some (value, rest) →
      ∃ before core, Blanks before ∧ Spells value core ∧
        cs = before ++ (core ++ rest)
  items :
    ∀ {items : List Json} {cs rest : List Char},
      readItems fuel cs = some (items, rest) →
      ∃ front, SpellsItems items front ∧ cs = front ++ rest
  members :
    ∀ {members : List (Text × Json)} {cs rest : List Char},
      readMembers fuel cs = some (members, rest) →
      ∃ front, SpellsMembers members front ∧
        cs = front ++ rest

namespace TakesWithin

variable {fuel : Nat}
variable {cs rest : List Char}

/- A value that is read is padded up to the character that
   follows it. -/
theorem padded
    {value : Json}
    {left : List Char}
    {c : Char}
    (h : TakesWithin fuel)
    (hRead : readValue fuel cs = some (value, left))
    (hNext : skipBlanks left = c :: rest) :
    ∃ front, Padded value front ∧ cs = front ++ c :: rest := by
  rcases h.value hRead with
    ⟨before, core, hBefore, hValue, rfl⟩
  rcases exists_blanks hNext with ⟨after, hAfter, rfl⟩
  exact ⟨_, .blanks hBefore hValue hAfter, by simp⟩

/- The items of an array, after its opening bracket. -/
theorem bracketed
    {value : Json}
    (h : TakesWithin fuel)
    (hRead :
      readValue (fuel + 1) ('[' :: cs) =
        some (value, rest)) :
    ∃ core, Spells value core ∧
      '[' :: cs = core ++ rest := by
  rw [readValue_bracket] at hRead
  split at hRead
  next hClose =>
    cases hRead
    rcases exists_blanks hClose with ⟨inside, hInside, rfl⟩
    exact ⟨_, .emptyArray hInside, by simp⟩
  next =>
    rw [readItems_skipBlanks] at hRead
    rcases Option.map_eq_some_iff.mp hRead with
      ⟨⟨items, left⟩, hReadItems, hEq⟩
    cases hEq
    rcases h.items hReadItems with ⟨front, hItems, rfl⟩
    exact ⟨_, .array hItems, rfl⟩

/- The members of an object, after its opening brace. -/
theorem braced
    {value : Json}
    (h : TakesWithin fuel)
    (hRead :
      readValue (fuel + 1) ('\x7b' :: cs) =
        some (value, rest)) :
    ∃ core, Spells value core ∧
      '\x7b' :: cs = core ++ rest := by
  rw [readValue_brace] at hRead
  split at hRead
  next hClose =>
    cases hRead
    rcases exists_blanks hClose with ⟨inside, hInside, rfl⟩
    exact ⟨_, .emptyObject hInside, by simp⟩
  next =>
    rw [readMembers_skipBlanks] at hRead
    rcases Option.map_eq_some_iff.mp hRead with
      ⟨⟨members, left⟩, hReadMembers, hEq⟩
    cases hEq
    rcases h.members hReadMembers with ⟨front, hMembers, rfl⟩
    exact ⟨_, .object hMembers, rfl⟩

/- A value whose first character is no blank. -/
theorem core
    {value : Json}
    (h : TakesWithin fuel)
    (hRead : readValue (fuel + 1) cs = some (value, rest))
    (hBlanks : skipBlanks cs = cs) :
    ∃ core, Spells value core ∧ cs = core ++ rest := by
  have hWhole := hRead
  rw [readValue, hBlanks] at hRead
  split at hRead
  · cases hRead
    exact ⟨_, .null, rfl⟩
  · cases hRead
    exact ⟨_, .true, rfl⟩
  · cases hRead
    exact ⟨_, .false, rfl⟩
  · simp only [Option.bind_eq_bind, Option.pure_def,
      Option.bind_eq_some_iff] at hRead
    rcases hRead with ⟨⟨text, left⟩, hString, hEq⟩
    cases hEq
    rcases spellsText_of_readString hString with
      ⟨inside, hText, rfl⟩
    exact ⟨_, .string hText, by simp⟩
  · exact h.bracketed hWhole
  · exact h.braced hWhole
  · simp only [Option.bind_eq_bind, Option.pure_def,
      Option.bind_eq_some_iff] at hRead
    rcases hRead with ⟨⟨literal, left⟩, hNumber, hEq⟩
    cases hEq
    rcases spellsNumber_of_readNumber hNumber with
      ⟨hNumber, hText⟩
    exact ⟨_, .number hNumber, hText⟩

theorem value_succ
    {value : Json}
    (h : TakesWithin fuel)
    (hRead : readValue (fuel + 1) cs = some (value, rest)) :
    ∃ before core, Blanks before ∧ Spells value core ∧
      cs = before ++ (core ++ rest) := by
  rw [← readValue_skipBlanks] at hRead
  rcases h.core hRead (skipBlanks_skipBlanks cs) with
    ⟨core, hCore, hSkip⟩
  rcases exists_blanks hSkip with ⟨before, hBefore, hText⟩
  exact ⟨before, core, hBefore, hCore, hText⟩

theorem items_succ
    {items : List Json}
    (h : TakesWithin fuel)
    (hRead : readItems (fuel + 1) cs = some (items, rest)) :
    ∃ front, SpellsItems items front ∧
      cs = front ++ rest := by
  rw [readItems] at hRead
  simp only [Option.bind_eq_bind, Option.pure_def,
    Option.bind_eq_some_iff] at hRead
  rcases hRead with ⟨⟨item, left⟩, hReadItem, hRest⟩
  split at hRest
  next hClose =>
    cases hRest
    rcases h.padded hReadItem hClose with ⟨front, hItem, rfl⟩
    exact ⟨_, .last hItem, by simp⟩
  next hComma =>
    rw [Option.bind_eq_some_iff] at hRest
    rcases hRest with ⟨⟨others, left⟩, hReadOthers, hEq⟩
    cases hEq
    rcases h.padded hReadItem hComma with ⟨front, hItem, rfl⟩
    rcases h.items hReadOthers with ⟨tail, hOthers, rfl⟩
    exact ⟨_, .more hItem hOthers, by simp⟩
  next => cases hRest

theorem members_succ
    {members : List (Text × Json)}
    (h : TakesWithin fuel)
    (hRead :
      readMembers (fuel + 1) cs = some (members, rest)) :
    ∃ front, SpellsMembers members front ∧
      cs = front ++ rest := by
  rw [readMembers] at hRead
  simp only [Option.bind_eq_bind, Option.pure_def,
    Option.bind_eq_some_iff] at hRead
  rcases hRead with
    ⟨⟨key, afterKey⟩, hReadKey, ⟨value, left⟩, hReadValue,
      hRest⟩
  rcases spellsKey_of_readKey hReadKey with ⟨ks, hKey, rfl⟩
  split at hRest
  next hClose =>
    cases hRest
    rcases h.padded hReadValue hClose with ⟨front, hValue, rfl⟩
    exact ⟨_, .last hKey hValue, by simp⟩
  next hComma =>
    rw [Option.bind_eq_some_iff] at hRest
    rcases hRest with ⟨⟨others, left⟩, hReadOthers, hEq⟩
    cases hEq
    rcases h.padded hReadValue hComma with
      ⟨front, hValue, rfl⟩
    rcases h.members hReadOthers with ⟨tail, hOthers, rfl⟩
    exact ⟨_, .more hKey hValue hOthers, by simp⟩
  next => cases hRest

end TakesWithin

/- With any fuel, only texts of the grammar are read. -/
theorem takesWithin
    (fuel : Nat) :
    TakesWithin fuel := by
  induction fuel with
  | zero =>
      refine ⟨?_, ?_, ?_⟩
      · intro value cs rest hRead
        cases hRead
      · intro items cs rest hRead
        cases hRead
      · intro members cs rest hRead
        cases hRead
  | succ fuel ih =>
      exact ⟨ih.value_succ, ih.items_succ, ih.members_succ⟩

/- A text that is read up to blanks at its end spells what it
   is read as. -/
theorem padded_of_readValue
    (fuel : Nat)
    {cs rest : List Char}
    {value : Json}
    (hRead : readValue fuel cs = some (value, rest))
    (hRest : Blanks rest) :
    Padded value cs := by
  rcases (takesWithin fuel).value hRead with
    ⟨before, core, hBefore, hValue, rfl⟩
  exact .blanks hBefore hValue hRest

/- The texts that are read as a value are those that spell
   it. -/
theorem parse?_eq_some_iff
    {s : String}
    {value : Json} :
    parse? s = some value ↔ Padded value s.toList := by
  refine ⟨?_, parse?_of_padded⟩
  intro hParse
  unfold parse? at hParse
  split at hParse
  next read left hRead =>
    split at hParse
    next hEnd =>
      cases hParse
      rcases exists_blanks (List.isEmpty_iff.mp hEnd) with
        ⟨after, hAfter, rfl⟩
      rw [List.append_nil] at hRead
      exact padded_of_readValue _ hRead hAfter
    next => cases hParse
  next => cases hParse

end Json

end Redeploy
