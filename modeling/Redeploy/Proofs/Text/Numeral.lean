import Mathlib.Data.List.TakeWhile
import Redeploy.Text.Numeral
import Redeploy.Text.Space

/-
  Which texts are numerals below a limit, and what is wrong
  with all others.

  Key definitions include:
    * `Text.Strips`
    * `Text.FirstOffence`
    * `Text.Denotes`
    * `Text.Faulty`

  Main results:
    * `Text.strips_iff`
    * `Text.readNumeral_eq_ok_iff`
    * `Text.readNumeral_eq_error_iff`

  Digits are read from left to right and the first offence is
  reported.  A digit that takes the number to the limit is
  one, even if worse follows.
-/

------------------------------------------------------------
-- Trimming
------------------------------------------------------------

namespace Redeploy

namespace Text

/- Whether a text is what another one is without the white
   space at its ends. -/
structure Strips
    (text core : List Char) : Prop where
  split :
    ∃ before after,
      text = before ++ core ++ after ∧
        (∀ c ∈ before, isSpace c = true) ∧
        ∀ c ∈ after, isSpace c = true
  head : ∀ c ∈ core.head?, isSpace c = false
  last : ∀ c ∈ core.getLast?, isSpace c = false

/- White space at the end makes no difference. -/
theorem trimEnd_append
    {after : List Char}
    (cs : List Char)
    (hAfter : ∀ c ∈ after, isSpace c = true) :
    trimEnd (cs ++ after) = trimEnd cs := by
  rw [trimEnd, List.reverse_append,
    List.dropWhile_append_of_pos (by simpa using hAfter),
    trimEnd]

/- White space at either end makes no difference. -/
theorem trim_append
    {before after : List Char}
    (core : List Char)
    (hBefore : ∀ c ∈ before, isSpace c = true)
    (hAfter : ∀ c ∈ after, isSpace c = true) :
    trim (before ++ core ++ after) = trim core := by
  rw [trim, List.append_assoc,
    List.dropWhile_append_of_pos hBefore,
    List.dropWhile_append, trim]
  split
  next hBlank =>
    rw [List.dropWhile_eq_nil_iff.mpr hAfter,
      List.isEmpty_iff.mp hBlank]
  next => exact trimEnd_append _ hAfter

theorem exists_trimEnd
    (cs : List Char) :
    ∃ after,
      cs = trimEnd cs ++ after ∧
        ∀ c ∈ after, isSpace c = true := by
  refine ⟨(cs.reverse.takeWhile isSpace).reverse, ?_, ?_⟩
  · rw [trimEnd, ← List.reverse_append,
      List.takeWhile_append_dropWhile, List.reverse_reverse]
  · intro c hMem
    exact List.all_eq_true.mp List.all_takeWhile c
      (List.mem_reverse.mp hMem)

theorem isSpace_of_mem_head?_dropWhile
    (cs : List Char)
    {c : Char}
    (h : c ∈ (cs.dropWhile isSpace).head?) :
    isSpace c = false := by
  have hFirst := List.head?_dropWhile_not isSpace cs
  rw [h] at hFirst
  exact hFirst

theorem strips_trim
    (text : List Char) :
    Strips text (trim text) := by
  rcases exists_trimEnd (text.dropWhile isSpace) with
    ⟨after, hSplit, hAfter⟩
  refine
    { split := ⟨text.takeWhile isSpace, after, ?_, ?_, hAfter⟩
      head := ?_
      last := ?_ }
  · rw [List.append_assoc, trim, ← hSplit,
      List.takeWhile_append_dropWhile]
  · exact List.all_eq_true.mp List.all_takeWhile
  · intro c hHead
    apply isSpace_of_mem_head?_dropWhile text
    rw [hSplit, List.head?_append]
    exact Option.or_eq_some_iff.mpr (.inl hHead)
  · intro c hLast
    rw [trim, trimEnd, List.getLast?_reverse] at hLast
    exact isSpace_of_mem_head?_dropWhile _ hLast

/- To strip a text is to trim it. -/
theorem strips_iff
    {text core : List Char} :
    Strips text core ↔ trim text = core := by
  constructor
  · rintro ⟨⟨before, after, rfl, hBefore, hAfter⟩,
      hHead, hLast⟩
    rw [trim_append core hBefore hAfter]
    exact trim_eq_self hHead hLast
  · rintro rfl
    exact strips_trim text

end Text

end Redeploy

------------------------------------------------------------
-- Digits
------------------------------------------------------------

namespace Redeploy

namespace Text

variable {limit : Nat}

/- More digits make no smaller number. -/
theorem le_ofDigitChars
    (digits : List Char)
    (n : Nat) :
    n ≤ Nat.ofDigitChars 10 digits n := by
  induction digits generalizing n with
  | nil => exact le_rfl
  | cons c rest ih =>
      rw [Nat.ofDigitChars_cons]
      exact le_trans (by omega) (ih _)

theorem readDigits_eq_ok_iff
    {start n : Fin limit}
    {cs : List Char} :
    readDigits start cs = .ok n ↔
      (∀ c ∈ cs, c.isDigit = true) ∧
        Nat.ofDigitChars 10 cs start = n := by
  induction cs generalizing start with
  | nil =>
      rw [readDigits, Nat.ofDigitChars_nil, ← Fin.ext_iff]
      simp
  | cons c rest ih =>
      rw [readDigits, List.forall_mem_cons,
        Nat.ofDigitChars_cons]
      split
      next hDigit =>
        split
        next hBelow =>
          rw [ih, and_iff_right hDigit]
          rfl
        next hBeyond =>
          constructor
          · intro h
            cases h
          · rintro ⟨-, hNumber⟩
            have hLe :=
              le_ofDigitChars rest
                (10 * start + (c.toNat - '0'.toNat))
            have hLess := n.isLt
            rw [digitValue] at hBeyond
            omega
      next hOther =>
        constructor
        · intro h
          cases h
        · exact fun h => absurd h.1.1 hOther

/- What is wrong with a character that follows the digits of a
   number. -/
inductive Offends
    (limit n : Nat)
    (c : Char) : NumeralFault → Prop where
  | invalidDigit
      (hOther : c.isDigit = false) :
      Offends limit n c .invalidDigit
  | tooLarge
      (hDigit : c.isDigit = true)
      (hBeyond : limit ≤ Nat.ofDigitChars 10 [c] n) :
      Offends limit n c .tooLarge

/- What is wrong with the first character that is at fault, if
   the ones before it are digits of a number in range. -/
def FirstOffence
    (limit start : Nat)
    (cs : List Char)
    (fault : NumeralFault) : Prop :=
  ∃ digits c rest,
    cs = digits ++ c :: rest ∧
      (∀ d ∈ digits, d.isDigit = true) ∧
      Nat.ofDigitChars 10 digits start < limit ∧
      Offends limit (Nat.ofDigitChars 10 digits start) c fault

/- An offence is the first one, or comes after a digit. -/
theorem firstOffence_cons_iff
    {start : Nat}
    {c : Char}
    {rest : List Char}
    {fault : NumeralFault} :
    FirstOffence limit start (c :: rest) fault ↔
      (start < limit ∧ Offends limit start c fault) ∨
        (c.isDigit = true ∧
          FirstOffence limit (Nat.ofDigitChars 10 [c] start)
            rest fault) := by
  constructor
  · rintro ⟨digits, d, later, hSplit, hDigits, hBelow, hOffends⟩
    cases digits with
    | nil =>
        cases hSplit
        exact .inl ⟨hBelow, hOffends⟩
    | cons first digits =>
        cases hSplit
        rw [List.forall_mem_cons] at hDigits
        exact .inr ⟨hDigits.1, digits, d, later, rfl,
          hDigits.2, hBelow, hOffends⟩
  · rintro (⟨hBelow, hOffends⟩ |
      ⟨hDigit, digits, d, later, rfl, hDigits, hBelow,
        hOffends⟩)
    · exact ⟨[], c, rest, rfl, List.forall_mem_nil _, hBelow,
        hOffends⟩
    · exact ⟨c :: digits, d, later, rfl,
        List.forall_mem_cons.mpr ⟨hDigit, hDigits⟩, hBelow,
        hOffends⟩

theorem readDigits_eq_error_iff
    {start : Fin limit}
    {cs : List Char}
    {fault : NumeralFault} :
    readDigits start cs = .error fault ↔
      FirstOffence limit start cs fault := by
  induction cs generalizing start with
  | nil =>
      constructor
      · intro h
        cases h
      · rintro ⟨digits, c, rest, hSplit, -⟩
        simp at hSplit
  | cons c rest ih =>
      rw [readDigits, firstOffence_cons_iff]
      split
      next hDigit =>
        split
        next hBelow =>
          rw [ih]
          constructor
          · exact fun h => .inr ⟨hDigit, h⟩
          · rintro (⟨-, hOther | ⟨-, hBeyond⟩⟩ | ⟨-, h⟩)
            · rw [hDigit] at hOther
              cases hOther
            · exact absurd hBelow (not_lt.mpr hBeyond)
            · exact h
        next hBeyond =>
          constructor
          · intro h
            cases h
            exact .inl ⟨start.isLt,
              .tooLarge hDigit (not_lt.mp hBeyond)⟩
          · rintro (⟨-, hOther | _⟩ |
              ⟨-, digits, d, later, -, -, hBelow, -⟩)
            · rw [hDigit] at hOther
              cases hOther
            · rfl
            · have hLe :=
                le_ofDigitChars digits
                  (Nat.ofDigitChars 10 [c] start)
              exact absurd (hLe.trans_lt hBelow) hBeyond
      next hOther =>
        constructor
        · intro h
          cases h
          exact .inl ⟨start.isLt,
            .invalidDigit (Bool.not_eq_true _ ▸ hOther)⟩
        · rintro (⟨-, _ | ⟨hDigit, -⟩⟩ | ⟨hDigit, -⟩)
          · rfl
          · exact absurd hDigit hOther
          · exact absurd hDigit hOther

end Text

end Redeploy

------------------------------------------------------------
-- Numerals
------------------------------------------------------------

namespace Redeploy

namespace Text

/- Whether a text is a numeral of a number: digits, at least
   one, after a plus sign or none. -/
def Denotes
    (cs : List Char)
    (n : Nat) : Prop :=
  ∃ digits,
    (cs = digits ∨ cs = '+' :: digits) ∧
      digits ≠ [] ∧
      (∀ c ∈ digits, c.isDigit = true) ∧
      Nat.ofDigitChars 10 digits 0 = n

/- What is wrong with a text that is no numeral of a number
   below a limit. -/
inductive Faulty
    (limit : Nat) : List Char → NumeralFault → Prop where
  | empty : Faulty limit [] .empty
  | signAlone : Faulty limit ['+'] .invalidDigit
  | signed
      {cs : List Char}
      {fault : NumeralFault}
      (h : FirstOffence limit 0 cs fault) :
      Faulty limit ('+' :: cs) fault
  | unsigned
      {cs : List Char}
      {fault : NumeralFault}
      (hSign : cs.head? ≠ some '+')
      (h : FirstOffence limit 0 cs fault) :
      Faulty limit cs fault

variable {limit : Nat}
variable {positive : 0 < limit}
variable {cs : List Char}

/- A sign is no digit, so it is not one of the digits. -/
theorem denotes_signed_iff
    {digits : List Char}
    {n : Nat} :
    Denotes ('+' :: digits) n ↔
      digits ≠ [] ∧ (∀ c ∈ digits, c.isDigit = true) ∧
        Nat.ofDigitChars 10 digits 0 = n := by
  constructor
  · rintro ⟨others, hSplit | hSplit, hSome, hDigits, hNumber⟩
    · subst hSplit
      have hSign : '+'.isDigit = true :=
        hDigits '+' List.mem_cons_self
      cases hSign
    · cases hSplit
      exact ⟨hSome, hDigits, hNumber⟩
  · exact fun h => ⟨digits, .inr rfl, h⟩

theorem denotes_unsigned_iff
    {n : Nat}
    (hSign : ∀ digits, cs ≠ '+' :: digits) :
    Denotes cs n ↔
      cs ≠ [] ∧ (∀ c ∈ cs, c.isDigit = true) ∧
        Nat.ofDigitChars 10 cs 0 = n := by
  constructor
  · rintro ⟨digits, rfl | rfl, h⟩
    · exact h
    · exact absurd rfl (hSign digits)
  · exact fun h => ⟨cs, .inl rfl, h⟩

/- A text is read as the number that it is a numeral of. -/
theorem readNumeral_eq_ok_iff
    {n : Fin limit} :
    readNumeral limit positive cs = .ok n ↔
      Denotes cs n := by
  unfold readNumeral
  split
  next =>
    rw [denotes_unsigned_iff (by simp)]
    simp
  next =>
    rw [denotes_signed_iff]
    simp
  next digits hMore =>
    rw [denotes_signed_iff, readDigits_eq_ok_iff]
    exact (and_iff_right hMore).symm
  next hSome _ hSign =>
    rw [denotes_unsigned_iff hSign, readDigits_eq_ok_iff]
    exact (and_iff_right hSome).symm

/- No text is a numeral of two numbers. -/
theorem Denotes.unique
    {m n : Nat}
    (hLeft : Denotes cs m)
    (hRight : Denotes cs n) :
    m = n := by
  have hSome : 0 < max m n + 1 := Nat.succ_pos _
  have hReadLeft :
      readNumeral (max m n + 1) hSome cs =
        .ok ⟨m, Nat.lt_succ_of_le (le_max_left m n)⟩ :=
    readNumeral_eq_ok_iff.mpr hLeft
  have hReadRight :
      readNumeral (max m n + 1) hSome cs =
        .ok ⟨n, Nat.lt_succ_of_le (le_max_right m n)⟩ :=
    readNumeral_eq_ok_iff.mpr hRight
  rw [hReadLeft] at hReadRight
  cases hReadRight
  rfl

/- Any other text is refused for its first fault. -/
theorem readNumeral_eq_error_iff
    {fault : NumeralFault} :
    readNumeral limit positive cs = .error fault ↔
      Faulty limit cs fault := by
  unfold readNumeral
  split
  next =>
    constructor
    · intro h
      cases h
      exact .empty
    · rintro (_ | _ | _ | ⟨-, digits, c, rest, hSplit, -⟩)
      · rfl
      · simp at hSplit
  next =>
    constructor
    · intro h
      cases h
      exact .signAlone
    · rintro (_ | _ | ⟨digits, c, rest, hSplit, -⟩ | ⟨hSign, -⟩)
      · rfl
      · simp at hSplit
      · exact absurd rfl hSign
  next digits hMore =>
    rw [readDigits_eq_error_iff]
    constructor
    · exact .signed
    · rintro (_ | _ | h | ⟨hSign, -⟩)
      · exact absurd rfl hMore
      · exact h
      · exact absurd rfl hSign
  next hSome _ hSign =>
    rw [readDigits_eq_error_iff]
    have hHead : cs.head? ≠ some '+' := by
      intro hPlus
      rcases List.head?_eq_some_iff.mp hPlus with
        ⟨digits, hSplit⟩
      exact hSign digits hSplit
    constructor
    · exact .unsigned hHead
    · rintro (_ | _ | _ | ⟨-, h⟩)
      · exact absurd rfl hSome
      · exact absurd rfl hHead
      · exact absurd rfl hHead
      · exact h

end Text

end Redeploy
