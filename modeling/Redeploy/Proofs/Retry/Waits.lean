import Redeploy.Proofs.Backoff.Replay

/-
  The waits between repeated calls.

  Key definitions include:
    * `Retry.noteAndPause`
    * `Retry.Waits`

  Main results:
    * `Retry.waits_calls`
    * `BackoffPolicy.replays_and_waits`

  Repeated calls wait after a failed call and before the next
  one only.  The waits are the first delays of the sequence,
  in order, so what bounds all delays bounds all waits.
-/

------------------------------------------------------------
-- Waits
------------------------------------------------------------

namespace Redeploy

namespace Delays

variable {δ : Type} [Delays δ]

/- What is left of a sequence is left of its rest. -/
theorem rest_succ
    (delays : δ)
    (n : Nat) :
    rest delays (n + 1) = rest (next delays).2 n := by
  induction n with
  | zero => rfl
  | succ n ih => exact congrArg (fun d => (next d).2) ih

theorem nth_succ
    (delays : δ)
    (n : Nat) :
    nth delays (n + 1) = nth (next delays).2 n :=
  congrArg (fun d => (next d).1) (rest_succ delays n)

end Delays

namespace Retry

variable {σ δ : Type} [Delays δ]

/- Tell of a failed call and wait for a delay. -/
def noteAndPause
    (number : Nat)
    (failure : Failure)
    (delay : Duration) : Act Failure σ Bool := do
  .note (.retrying (number + 1) failure delay)
  .pause delay

/- Whether repeated calls, the first of them with some
   number, lead from one world to another and wait for some
   delays on the way. -/
inductive Waits
    (call : Act Failure σ Unit) :
    Nat → World σ → List Duration →
      Except Failure Unit → World σ → Prop where
  /- No call is made. -/
  | none
      {number : Nat}
      {w : World σ} :
      Waits call number w [] (.ok ()) w
  /- A call is the last one. -/
  | last
      {number : Nat}
      {w w' : World σ}
      {outcome : Except Failure Unit}
      (hCall : call.run w = (outcome, w')) :
      Waits call number w [] outcome w'
  /- After a failed call and a wait, calls go on. -/
  | again
      {number : Nat}
      {w w₁ w₂ w' : World σ}
      {failure : Failure}
      {delay : Duration}
      {delays : List Duration}
      {outcome : Except Failure Unit}
      (hCall : call.run w = (.error failure, w₁))
      (hWait :
        (noteAndPause number failure delay).run w₁ =
          (.ok true, w₂))
      (hRest :
        Waits call (number + 1) w₂ delays outcome w') :
      Waits call number w (delay :: delays) outcome w'
  /- All is cancelled during the wait. -/
  | cancelled
      {number : Nat}
      {w w₁ w₂ : World σ}
      {failure : Failure}
      {delay : Duration}
      (hCall : call.run w = (.error failure, w₁))
      (hWait :
        (noteAndPause number failure delay).run w₁ =
          (.ok false, w₂)) :
      Waits call number w [delay] (.error failure)
        ((Act.note .closing : Act Failure σ PUnit).run w₂).2

variable {retryable : Failure → Bool}
variable {call : Act Failure σ Unit}

/- To wait is no failure, whether all is cancelled or not. -/
theorem exists_run_noteAndPause
    (number : Nat)
    (failure : Failure)
    (delay : Duration)
    (w : World σ) :
    ∃ passed w',
      (noteAndPause number failure delay).run w =
        (.ok passed, w') := by
  unfold noteAndPause
  rw [Act.run_bind, Act.run_note]
  dsimp only
  rw [Act.run_pause]
  split
  · exact ⟨false, _, rfl⟩
  · exact ⟨true, _, rfl⟩

/- What follows a failed call that is worth another one. -/
theorem run_calls_of_failed
    {left number : Nat}
    {delays : δ}
    {w w₁ : World σ}
    {failure : Failure}
    (hCall : call.run w = (.error failure, w₁))
    (hMore : ¬ (left = 0 ∨ retryable failure = false)) :
    (calls retryable call (left + 1) number delays).run w =
      (noteAndPause number failure (Delays.next delays).1 >>=
        fun passed =>
          if passed then
            calls retryable call left (number + 1)
              (Delays.next delays).2
          else do
            .note .closing
            .fail failure).run w₁ := by
  rw [calls, Act.run_bind, Act.run_attempt, hCall]
  dsimp only
  rw [if_neg hMore, noteAndPause, bind_assoc]

/-
  The waits are the first delays of the sequence, fewer than
  there are calls.  The induction is on the number of calls
  left.
-/
theorem waits_calls
    (retryable : Failure → Bool)
    (call : Act Failure σ Unit)
    (left number : Nat)
    (delays : δ)
    (w : World σ) :
    ∃ n ≤ left - 1,
      Waits call number w
        ((List.range n).map (Delays.nth delays))
        ((calls retryable call left number delays).run w).1
        ((calls retryable call left number
          delays).run w).2 := by
  induction left generalizing number delays w with
  | zero => exact ⟨0, Nat.zero_le _, .none⟩
  | succ left ih =>
      rcases hCall : call.run w with ⟨outcome, w₁⟩
      cases outcome with
      | ok =>
          refine ⟨0, Nat.zero_le _, ?_⟩
          rw [calls, Act.run_bind, Act.run_attempt, hCall]
          exact .last hCall
      | error failure =>
          by_cases hStop :
              left = 0 ∨ retryable failure = false
          · refine ⟨0, Nat.zero_le _, ?_⟩
            rw [calls, Act.run_bind, Act.run_attempt, hCall]
            dsimp only
            rw [if_pos hStop]
            exact .last hCall
          have hLeft : 0 < left :=
            Nat.pos_of_ne_zero fun hNone => hStop (.inl hNone)
          rw [run_calls_of_failed hCall hStop, Act.run_bind]
          rcases exists_run_noteAndPause number failure
              (Delays.next delays).1 w₁ with
            ⟨passed, w₂, hWait⟩
          rw [hWait]
          cases passed with
          | false =>
              exact ⟨1, hLeft, .cancelled hCall hWait⟩
          | true =>
              rcases ih (number + 1) (Delays.next delays).2 w₂
                with ⟨n, hFewer, hRest⟩
              refine ⟨n + 1, by omega, ?_⟩
              have hDelays :
                  (List.range (n + 1)).map
                      (Delays.nth delays) =
                    (Delays.next delays).1 ::
                      (List.range n).map
                        (Delays.nth
                          (Delays.next delays).2) := by
                rw [List.range_succ_eq_map, List.map_cons,
                  List.map_map]
                exact congrArg _
                  (List.map_congr_left fun m _ =>
                    Delays.nth_succ delays m)
              rw [hDelays]
              exact .again hCall hWait hRest

end Retry

/-
  The delays of a policy begin at the initial one, or at the
  cap, and stay within the cap.  After a reset they are those
  of a new sequence, however they are taken.  To repeat calls
  by the policy is to wait for the first of them, each time
  between two calls.
-/
theorem BackoffPolicy.replays_and_waits
    (initial cap : Duration)
    (multiplier : Binary64)
    (attempts : Nat) :
    let policy : BackoffPolicy :=
      ⟨attempts, initial, cap, multiplier⟩
    let fresh := Backoff.start initial cap multiplier
    policy.backoff = fresh ∧
      fresh.Replays initial cap ∧
      ∀ {σ : Type} (call : Act Failure σ Unit)
          (w : World σ),
        ∃ waits,
          Retry.Waits call 1 w waits
              ((policy.retry call).run w).1
              ((policy.retry call).run w).2 ∧
            waits.length ≤ attempts - 1 ∧
            waits = (fresh.delays waits.length).1 ∧
            ∀ d ∈ waits, d ≤ cap := by
  intro policy fresh
  have hReplays : fresh.Replays initial cap :=
    Backoff.replays_start initial cap multiplier
  refine ⟨rfl, hReplays, ?_⟩
  intro σ call w
  rcases Retry.waits_calls (fun _ => true) call attempts 1
      fresh w with
    ⟨n, hFewer, hWaits⟩
  have hTaken :
      (List.range n).map (Delays.nth fresh) =
        (fresh.uses [.take n]).1 := by
    rw [hReplays.told, Backoff.told, List.range_eq_range']
    exact (List.append_nil _).symm
  refine ⟨_, hWaits, ?_, ?_, ?_⟩
  · rwa [List.length_map, List.length_range]
  · rw [List.length_map, List.length_range, hTaken]
    exact List.append_nil _
  · rw [hTaken]
    exact hReplays.bounded [.take n]

end Redeploy
