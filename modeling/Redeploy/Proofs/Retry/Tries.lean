import Redeploy.Proofs.Act.Situation
import Redeploy.Retry

/-
  How repeated calls go.

  Key definitions include:
    * `Retry.Tries`

  Main results:
    * `Act.Leads.tries`
    * `Retry.Tries.invariant`
    * `Retry.Tries.countdown`

  `Tries` tells of each call in turn where it led.  All calls
  but the last fail in a way that is worth another one, and
  calls end early only after a success, after a failure of
  another kind or where all is cancelled.
-/

------------------------------------------------------------
-- Tries
------------------------------------------------------------

namespace Redeploy

namespace Retry

variable {σ : Type}

/- Calls that begin in a situation, at most a number of them,
   and end with an outcome in another situation. -/
inductive Tries
    (retryable : Failure → Bool)
    (call : Act Failure σ Unit) :
    Nat → Situation σ → Except Failure Unit →
      Situation σ → Prop where
  | none
      {s : Situation σ} :
      Tries retryable call 0 s (.ok ()) s
  | success
      {left : Nat}
      {s s' : Situation σ}
      (hCall : call.Leads s (.ok ()) s') :
      Tries retryable call (left + 1) s (.ok ()) s'
  | failure
      {left : Nat}
      {s s' : Situation σ}
      {e : Failure}
      (hCall : call.Leads s (.error e) s')
      (hLast :
        left = 0 ∨ retryable e = false ∨
          s'.cancelledAt ≠ Option.none) :
      Tries retryable call (left + 1) s (.error e) s'
  | again
      {left : Nat}
      {s s₁ s' : Situation σ}
      {e : Failure}
      {outcome : Except Failure Unit}
      (hCall : call.Leads s (.error e) s₁)
      (hRetry : retryable e = true)
      (hLeft : 0 < left)
      (hRest : Tries retryable call left s₁ outcome s') :
      Tries retryable call (left + 1) s outcome s'

end Retry

/- Repeated calls go as `Tries` tells, whatever the delays
   between them are. -/
theorem Act.Leads.tries
    {σ δ : Type}
    [Delays δ]
    {retryable : Failure → Bool}
    {call : Act Failure σ Unit}
    {left number : Nat}
    {delays : δ}
    {s s' : Situation σ}
    {outcome : Except Failure Unit}
    (h : (Retry.calls retryable call left number
      delays).Leads s outcome s') :
    Retry.Tries retryable call left s outcome s' := by
  induction left generalizing number delays s with
  | zero =>
      rcases Leads.pure h with ⟨rfl, rfl⟩
      exact .none
  | succ left ih =>
      rw [Retry.calls] at h
      rcases h.attempt_bind with ⟨tried, s₁, hCall, h⟩
      cases tried with
      | ok _ =>
          rcases Leads.pure h with ⟨rfl, rfl⟩
          exact .success hCall
      | error e =>
          dsimp only at h
          split at h
          next hLast =>
            rcases Leads.fail h with ⟨rfl, rfl⟩
            exact .failure hCall
              (hLast.imp_right fun hFinal => .inl hFinal)
          next hMore =>
            rcases not_or.mp hMore with ⟨hLeft, hRetry⟩
            rcases h.after_note.after_pause with
              ⟨elapsed, hPause, h⟩
            cases elapsed with
            | true =>
                rw [if_pos rfl] at h
                exact .again hCall (by simpa using hRetry)
                  (Nat.pos_of_ne_zero hLeft) (ih h)
            | false =>
                rw [if_neg (by simp)] at h
                rcases h.after_note.fail with ⟨rfl, rfl⟩
                exact .failure hCall
                  (.inr (.inr (hPause rfl)))

end Redeploy

------------------------------------------------------------
-- Invariants
------------------------------------------------------------

namespace Redeploy

namespace Retry

variable {σ : Type}
variable {retryable : Failure → Bool}
variable {call : Act Failure σ Unit}
variable {attempts : Nat}
variable {s s' : Situation σ}

/- What failing calls keep up holds until the end, or until
   the call that succeeds. -/
theorem Tries.invariant
    {Holds : Situation σ → Prop}
    {outcome : Except Failure Unit}
    (hKeeps :
      ∀ s e s', Holds s → call.Leads s (.error e) s' →
        Holds s')
    (hAttempts : 0 < attempts)
    (hStart : Holds s)
    (h : Tries retryable call attempts s outcome s') :
    (∃ e, outcome = .error e ∧ Holds s') ∨
    (outcome = .ok () ∧
      ∃ s₁, Holds s₁ ∧ call.Leads s₁ (.ok ()) s') := by
  induction h with
  | none => omega
  | success hCall => exact .inr ⟨rfl, _, hStart, hCall⟩
  | failure hCall _ =>
      exact .inl ⟨_, rfl, hKeeps _ _ _ hStart hCall⟩
  | again hCall _ hLeft _ ih =>
      exact ih hLeft (hKeeps _ _ _ hStart hCall)

/- What every call keeps up holds at the end. -/
theorem Tries.preserves
    {Holds : Situation σ → Prop}
    {outcome : Except Failure Unit}
    (hKeeps :
      ∀ s outcome s', Holds s → call.Leads s outcome s' →
        Holds s')
    (hStart : Holds s)
    (h : Tries retryable call attempts s outcome s') :
    Holds s' := by
  induction h with
  | none => exact hStart
  | success hCall => exact hKeeps _ _ _ hStart hCall
  | failure hCall _ => exact hKeeps _ _ _ hStart hCall
  | again hCall _ _ _ ih =>
      exact ih (hKeeps _ _ _ hStart hCall)

/-
  Calls that fail as long as something lingers.  A stage
  tells how many calls were made and how many more will
  fail; the call after those is done.  Calls succeed exactly
  if there are more of them than will fail.
-/
theorem Tries.countdown
    {Stage : Nat → Nat → Situation σ → Prop}
    {Done : Nat → Situation σ → Prop}
    {Expected : Failure → Prop}
    (hNever :
      ∀ made left s, Stage made left s →
        s.cancelledAt = .none)
    (hLingers :
      ∀ made left s outcome s', Stage made (left + 1) s →
        call.Leads s outcome s' →
        ∃ e, outcome = .error e ∧ Expected e ∧
          retryable e = true ∧ Stage (made + 1) left s')
    (hGone :
      ∀ made s outcome s', Stage made 0 s →
        call.Leads s outcome s' →
        outcome = .ok () ∧ Done (made + 1) s')
    {made left : Nat}
    {outcome : Except Failure Unit}
    (hAttempts : 0 < attempts)
    (hStage : Stage made left s)
    (h : Tries retryable call attempts s outcome s') :
    (left < attempts ∧ outcome = .ok () ∧
      Done (made + left + 1) s') ∨
    (attempts ≤ left ∧
      (∃ e, outcome = .error e ∧ Expected e) ∧
      Stage (made + attempts) (left - attempts) s') := by
  induction h generalizing made left with
  | none => omega
  | success hCall =>
      cases left with
      | zero =>
          have hDone := hGone _ _ _ _ hStage hCall
          exact .inl ⟨by omega, rfl, hDone.2⟩
      | succ left =>
          rcases hLingers _ _ _ _ _ hStage hCall with
            ⟨e, hError, -⟩
          cases hError
  | failure hCall hLast =>
      cases left with
      | zero => cases (hGone _ _ _ _ hStage hCall).1
      | succ left =>
          rcases hLingers _ _ _ _ _ hStage hCall with
            ⟨_, hError, hExpected, hRetry, hNext⟩
          cases hError
          rcases hLast with rfl | hFinal | hCancelled
          · exact .inr
              ⟨by omega, ⟨_, rfl, hExpected⟩, by simpa⟩
          · rw [hRetry] at hFinal
            cases hFinal
          · exact absurd (hNever _ _ _ hNext) hCancelled
  | @again n _ _ _ _ _ hCall _ hLeft _ ih =>
      cases left with
      | zero => cases (hGone _ _ _ _ hStage hCall).1
      | succ left =>
          rcases hLingers _ _ _ _ _ hStage hCall with
            ⟨e, -, -, -, hNext⟩
          have hMade :
              made + 1 + left + 1 = made + (left + 1) + 1 := by
            omega
          rcases ih hLeft hNext with
            ⟨hMore, hOk, hDone⟩ | ⟨hFew, hFailure, hLate⟩
          · rw [hMade] at hDone
            exact .inl ⟨by omega, hOk, hDone⟩
          · have hCalls :
                made + 1 + n = made + (n + 1) := by
              omega
            have hStill :
                left - n = left + 1 - (n + 1) := by
              omega
            rw [hCalls, hStill] at hLate
            exact .inr ⟨by omega, hFailure, hLate⟩

end Retry

end Redeploy
