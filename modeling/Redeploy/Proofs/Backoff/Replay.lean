import Redeploy.Proofs.Duration
import Redeploy.Proofs.Retry.Engine

/-
  What a sequence of growing delays tells.

  Key definitions include:
    * `Backoff.Use`
    * `Backoff.uses`
    * `Backoff.told`
    * `Backoff.Replays`

  Main results:
    * `Backoff.uses_rest`
    * `Backoff.replays_start`

  All that can be done with a sequence leads to some place of
  the one sequence of delays that it began with.  A reset
  leads back to the first place, from wherever it is.
-/

------------------------------------------------------------
-- Uses
------------------------------------------------------------

namespace Redeploy

namespace Backoff

/- What can be done with a sequence of delays. -/
inductive Use where
  /- Take the current delay. -/
  | next
  /- Take the next one of an endless sequence. -/
  | iterate
  /- Take a number of them. -/
  | take (n : Nat)
  | reset

/- The delays that one use tells, and what is left. -/
def use
    (b : Backoff) : Use → List Duration × Backoff
  | .next => ([b.next.1], b.next.2)
  | .iterate => ([(Delays.next b).1], (Delays.next b).2)
  | .take n => b.delays n
  | .reset => ([], b.reset)

/- The delays that uses tell one after the other. -/
def uses
    (b : Backoff) : List Use → List Duration × Backoff
  | [] => ([], b)
  | first :: later =>
      ((b.use first).1 ++ ((b.use first).2.uses later).1,
        ((b.use first).2.uses later).2)

/- What uses are to tell from a place of a sequence on. -/
def told
    (delay : Nat → Duration) :
    Nat → List Use → List Duration
  | _, [] => []
  | n, .next :: later => delay n :: told delay (n + 1) later
  | n, .iterate :: later => delay n :: told delay (n + 1) later
  | n, .take k :: later =>
      (List.range' n k).map delay ++ told delay (n + k) later
  | _, .reset :: later => told delay 0 later

variable {b : Backoff}
variable {delay : Nat → Duration}

/- Nothing is told but delays of the sequence. -/
theorem forall_mem_told
    {P : Duration → Prop}
    (hDelay : ∀ n, P (delay n))
    (n : Nat)
    (uses : List Use) :
    ∀ d ∈ told delay n uses, P d := by
  induction uses generalizing n with
  | nil =>
      intro d hMem
      cases hMem
  | cons first later ih =>
      intro d hMem
      cases first with
      | next =>
          rcases List.mem_cons.mp hMem with rfl | hLater
          · exact hDelay n
          · exact ih (n + 1) d hLater
      | iterate =>
          rcases List.mem_cons.mp hMem with rfl | hLater
          · exact hDelay n
          · exact ih (n + 1) d hLater
      | take k =>
          rcases List.mem_append.mp hMem with hTaken | hLater
          · rcases List.mem_map.mp hTaken with ⟨m, -, rfl⟩
            exact hDelay m
          · exact ih (n + k) d hLater
      | reset => exact ih 0 d hMem

/- What is done later is done with what is left. -/
theorem uses_append
    (b : Backoff)
    (before after : List Use) :
    b.uses (before ++ after) =
      ((b.uses before).1 ++ ((b.uses before).2.uses after).1,
        ((b.uses before).2.uses after).2) := by
  induction before generalizing b with
  | nil => rfl
  | cons first later ih =>
      rw [List.cons_append, uses, ih, uses,
        List.append_assoc]

end Backoff

end Redeploy

------------------------------------------------------------
-- Places
------------------------------------------------------------

namespace Redeploy

namespace Backoff

open Delays (nth rest)

variable {b : Backoff}

/- Only the current delay differs from place to place. -/
theorem rest_eq
    (b : Backoff)
    (n : Nat) :
    rest b n = { b with current := (rest b n).current } := by
  induction n with
  | zero => rfl
  | succ n ih =>
      have hNext :
          rest b (n + 1) =
            { rest b n with
              current := (rest b n).after (rest b n).current } :=
        rfl
      rw [hNext, ih]

/- Taking delays one after the other leads from place to
   place. -/
theorem delays_rest
    (b : Backoff)
    (n k : Nat) :
    (rest b n).delays k =
      ((List.range' n k).map (nth b), rest b (n + k)) := by
  induction k generalizing n with
  | zero => rfl
  | succ k ih =>
      have hNext : (rest b n).next = (nth b n, rest b (n + 1)) :=
        rfl
      have hPlace : n + 1 + k = n + (k + 1) := by omega
      rw [delays, hNext]
      dsimp only
      rw [ih (n + 1), hPlace, List.range'_succ, List.map_cons]

/- A growing delay does not grow beyond the cap. -/
theorem after_le
    (b : Backoff)
    (d : Duration) :
    b.after d ≤ b.cap := by
  unfold after
  split
  · exact min_le_right _ _
  · exact le_refl b.cap

/- Whether a sequence is at its first delay. -/
def AtStart
    (b : Backoff) : Prop :=
  b.current = min b.initial b.cap

theorem AtStart.nth_le
    (h : b.AtStart)
    (n : Nat) :
    nth b n ≤ b.cap := by
  cases n with
  | zero =>
      change b.current ≤ b.cap
      rw [h]
      exact min_le_right _ _
  | succ n =>
      have hCap : (rest b n).cap = b.cap := by
        rw [rest_eq]
      rw [← hCap]
      exact (rest b n).after_le _

/- From every place a reset leads back to the first one. -/
theorem AtStart.reset_rest
    (h : b.AtStart)
    (n : Nat) :
    (rest b n).reset = b := by
  rw [rest_eq, reset]
  dsimp only
  rw [← h]

/- Uses tell what follows the place that they begin at. -/
theorem AtStart.uses_rest
    (h : b.AtStart)
    (n : Nat)
    (uses : List Use) :
    ((rest b n).uses uses).1 = told (nth b) n uses := by
  induction uses generalizing n with
  | nil => rfl
  | cons first later ih =>
      cases first with
      | next => exact congrArg (nth b n :: ·) (ih (n + 1))
      | iterate => exact congrArg (nth b n :: ·) (ih (n + 1))
      | take k =>
          have hTake :
              (rest b n).use (.take k) =
                ((List.range' n k).map (nth b),
                  rest b (n + k)) :=
            delays_rest b n k
          rw [uses, told, hTake, ih (n + k)]
      | reset =>
          have hReset :
              (rest b n).use .reset = ([], rest b 0) :=
            congrArg (Prod.mk []) (h.reset_rest n)
          rw [uses, told, hReset, ih 0]
          rfl

/- The place that uses lead to. -/
theorem AtStart.exists_uses_eq_rest
    (h : b.AtStart)
    (n : Nat)
    (uses : List Use) :
    ∃ m, ((rest b n).uses uses).2 = rest b m := by
  induction uses generalizing n with
  | nil => exact ⟨n, rfl⟩
  | cons first later ih =>
      cases first with
      | next => exact ih (n + 1)
      | iterate => exact ih (n + 1)
      | take k =>
          have hTake :
              ((rest b n).use (.take k)).2 = rest b (n + k) :=
            congrArg Prod.snd (delays_rest b n k)
          rw [uses, hTake]
          exact ih (n + k)
      | reset =>
          have hReset : ((rest b n).use .reset).2 = rest b 0 :=
            h.reset_rest n
          rw [uses, hReset]
          exact ih 0

end Backoff

end Redeploy

------------------------------------------------------------
-- Sequences from Their Start
------------------------------------------------------------

namespace Redeploy

namespace Backoff

/- Whether a sequence tells the same delays over and over,
   each time that it is reset, and none above a cap. -/
structure Replays
    (initial cap : Duration)
    (fresh : Backoff) : Prop where
  first : Delays.nth fresh 0 = min initial cap
  told :
    ∀ uses,
      (fresh.uses uses).1 = told (Delays.nth fresh) 0 uses
  reset :
    ∀ before, (fresh.uses before).2.reset = fresh
  replayed :
    ∀ before after,
      (fresh.uses (before ++ .reset :: after)).1 =
        (fresh.uses before).1 ++ (fresh.uses after).1
  bounded :
    ∀ uses, ∀ d ∈ (fresh.uses uses).1, d ≤ cap

theorem replays_start
    (initial cap : Duration)
    (multiplier : Binary64) :
    (start initial cap multiplier).Replays initial cap := by
  have hStart : (start initial cap multiplier).AtStart := rfl
  have hTold (uses : List Use) :
      ((start initial cap multiplier).uses uses).1 =
        told (Delays.nth (start initial cap multiplier)) 0
          uses :=
    hStart.uses_rest 0 uses
  have hReset (before : List Use) :
      ((start initial cap multiplier).uses
        before).2.reset = start initial cap multiplier := by
    rcases hStart.exists_uses_eq_rest 0 before with
      ⟨m, hPlace⟩
    replace hPlace :
        ((start initial cap multiplier).uses before).2 =
          Delays.rest (start initial cap multiplier) m :=
      hPlace
    rw [hPlace]
    exact hStart.reset_rest m
  refine
    { first := rfl
      told := hTold
      reset := hReset
      replayed := ?_
      bounded := ?_ }
  · intro before after
    rw [uses_append]
    dsimp only [uses, use]
    rw [hReset, List.nil_append]
  · intro uses
    rw [hTold]
    exact forall_mem_told hStart.nth_le 0 uses

end Backoff

end Redeploy
