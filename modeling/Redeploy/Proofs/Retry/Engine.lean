import Mathlib.Order.Bounds.Basic
import Redeploy.Proofs.Act.Watched
import Redeploy.Retry

/-
  How often calls are repeated, and what passes in between.

  Key definitions include:
    * `Delays.nth`
    * `World.Cancelled`
    * `Retry.reached`, `Retry.tried`
    * `Retry.Final`
    * `Retry.Repeats`
    * `Retry.Records`

  Main results:
    * `Retry.run_calls_records`
    * `Retry.repeats_calls`
    * `Retry.exhausted_or_cancelled`
    * `Retry.repeats_by_policy`

  The calls that could be made form an endless sequence: each
  of them begins where the one before it, and the whole wait
  after that one, led.  Of this sequence exactly the calls up
  to the first final one are made.  Time and the log count
  here, so worlds are compared as a whole.
-/

------------------------------------------------------------
-- Sequences of Delays
------------------------------------------------------------

namespace Redeploy

namespace Delays

variable {δ : Type} [Delays δ]

/- What is left of a sequence after a number of delays. -/
def rest
    (delays : δ) : Nat → δ
  | 0 => delays
  | n + 1 => (next (rest delays n)).2

/- The delay after a number of others. -/
def nth
    (delays : δ)
    (n : Nat) : Duration :=
  (next (rest delays n)).1

/- At fixed intervals all delays are the same. -/
theorem nth_period
    (period : Duration) :
    nth period = fun _ => period := by
  have hRest (n : Nat) : rest period n = period := by
    induction n with
    | zero => rfl
    | succ n ih => exact ih
  funext n
  exact hRest n

end Delays

end Redeploy

------------------------------------------------------------
-- Sequences of Calls
------------------------------------------------------------

namespace Redeploy

/- Whether all has been cancelled by now. -/
def World.Cancelled
    {σ : Type}
    (w : World σ) : Prop :=
  ∃ t, w.cancelledAt = some t ∧ t ≤ w.now

namespace Retry

variable {σ : Type}

/- Where a failed call of a number leads once it is noted and
   the whole delay has passed.  A success is not noted. -/
def waited
    (number : Nat)
    (delay : Duration) :
    Except Failure Unit × World σ → World σ
  | (.ok (), w) => w
  | (.error failure, w) =>
      { w with
        now := w.now + delay.ceilMillis
        log :=
          w.log ++
            [⟨w.span, .retrying (number + 1) failure delay⟩] }

/- Where it leads if all is cancelled during the delay. -/
def interrupted
    (number : Nat)
    (delay : Duration) :
    Except Failure Unit × World σ → World σ
  | (.ok (), w) => w
  | (.error failure, w) =>
      { w with
        now := max w.now (w.cancelledAt.getD 0)
        log :=
          w.log ++
            [⟨w.span, .retrying (number + 1) failure delay⟩,
              ⟨w.span, .closing⟩] }

section Calls

variable (call : Act Failure σ Unit)
variable (delay : Nat → Duration)
variable (w : World σ)

/- The world that a call begins in after a number of failed
   calls and of whole delays. -/
def reached : Nat → World σ
  | 0 => w
  | n + 1 =>
      waited (n + 1) (delay n) (call.run (reached n))

/- That call: its outcome, and the world after it. -/
def tried
    (n : Nat) : Except Failure Unit × World σ :=
  call.run (reached call delay w n)

end Calls

/- Whether a call with some outcome is worth another one. -/
def worthAnother
    (retryable : Failure → Bool) :
    Except Failure Unit → Bool
  | .ok () => false
  | .error failure => retryable failure

/- Whether all is cancelled before a delay has passed. -/
def cut
    (delay : Duration)
    (w : World σ) : Bool :=
  w.cancelledBy (w.now + delay.ceilMillis)

/- Whether no call is made after one that follows a number
   of others: because the attempts are used up, because of
   how it ended or because of a cancellation. -/
def Final
    (retryable : Failure → Bool)
    (attempts : Nat)
    (delay : Nat → Duration)
    (call : Act Failure σ Unit)
    (w : World σ)
    (n : Nat) : Prop :=
  n + 1 = attempts ∨
  worthAnother retryable (tried call delay w n).1 = false ∨
  cut (delay n) (tried call delay w n).2 = true

/- The world after a call that is final.  A delay that was
   begun after it has been interrupted. -/
def finished
    (retryable : Failure → Bool)
    (attempts : Nat)
    (delay : Nat → Duration)
    (call : Act Failure σ Unit)
    (w : World σ)
    (n : Nat) : World σ :=
  if n + 1 < attempts ∧
      worthAnother retryable (tried call delay w n).1 = true
  then interrupted (n + 1) (delay n) (tried call delay w n)
  else (tried call delay w n).2

/-
  Whether an action repeats a call exactly as long as there
  is need for it, and ends as the last call does.  A record
  of the calls tells of those up to the first final one.
-/
structure Repeats
    (retryable : Failure → Bool)
    (attempts : Nat)
    (delay : Nat → Duration)
    (repeated :
      {τ : Type} → Act Failure τ Unit → Act Failure τ Unit) :
    Prop where
  none :
    attempts = 0 →
    ∀ {σ : Type} (call : Act Failure σ Unit) (w : World σ),
      (repeated call).run w = (.ok (), w)
  some :
    0 < attempts →
    ∀ {σ : Type} (call : Act Failure σ Unit) (w : World σ),
      ∃ last,
        IsLeast
          {n | Final retryable attempts delay call w n}
          last ∧
        (repeated call).run w =
          ((tried call delay w last).1,
            finished retryable attempts delay call w
              last) ∧
        (repeated (call.watched id)).run (w.beside []) =
          ((tried call delay w last).1,
            (finished retryable attempts delay call w
              last).beside
              ((List.range (last + 1)).map fun n =>
                (tried call delay w n).1))

end Retry

end Redeploy

------------------------------------------------------------
-- Repeated Calls
------------------------------------------------------------

namespace Redeploy

namespace Retry

variable {σ δ : Type} [Delays δ]
variable {retryable : Failure → Bool}
variable {attempts : Nat}
variable {delay : Nat → Duration}
variable {call : Act Failure σ Unit}
variable {w : World σ}

/- Where a delay is interrupted, all is cancelled. -/
private theorem cancelled_interrupted
    {number : Nat}
    {d : Duration}
    {tried : Except Failure Unit × World σ}
    (hWorth : worthAnother retryable tried.1 = true)
    (hCut : cut d tried.2 = true) :
    (interrupted number d tried).Cancelled := by
  rcases tried with ⟨outcome, after⟩
  cases outcome with
  | ok => cases hWorth
  | error failure =>
      unfold cut World.cancelledBy at hCut
      cases hTime : after.cancelledAt with
      | none =>
          rw [hTime] at hCut
          cases hCut
      | some t =>
          refine ⟨t, hTime, ?_⟩
          change t ≤ max after.now (after.cancelledAt.getD 0)
          rw [hTime]
          exact Nat.le_max_right _ _

/- Delays do nothing to the system. -/
theorem waited_system
    (number : Nat)
    (d : Duration)
    (outcome : Except Failure Unit) :
    (waited number d (outcome, w)).system = w.system := by
  cases outcome with
  | ok => rfl
  | error failure =>
      rewrite [waited]
      -- The sum would be computed in comparing the worlds.
      generalize w.now + d.ceilMillis = finish
      rfl

theorem finished_system
    (n : Nat) :
    (finished retryable attempts delay call w n).system =
      (tried call delay w n).2.system := by
  unfold finished
  split
  · rcases tried call delay w n with ⟨outcome, after⟩
    cases outcome <;> rfl
  · rfl

/- The last call that is allowed is final. -/
theorem le_of_isLeast_final
    {last : Nat}
    (hAttempts : 0 < attempts)
    (hLast :
      IsLeast {n | Final retryable attempts delay call w n}
        last) :
    last + 1 ≤ attempts := by
  have hUsed :
      Final retryable attempts delay call w (attempts - 1) :=
    .inl (by omega)
  have hBound := hLast.2 hUsed
  omega

/- A final call that is worth another one is the last that is
   allowed, or all is cancelled by then. -/
theorem exhausted_or_cancelled
    {last : Nat}
    (hAttempts : 0 < attempts)
    (hLast :
      IsLeast {n | Final retryable attempts delay call w n}
        last)
    (hWorth :
      worthAnother retryable (tried call delay w last).1 =
        true) :
    last + 1 = attempts ∨
      (finished retryable attempts delay call w
        last).Cancelled := by
  have hBound := le_of_isLeast_final hAttempts hLast
  rcases hLast.1 with hUsed | hDone | hCut
  · exact .inl hUsed
  · rw [hWorth] at hDone
    cases hDone
  · by_cases hMore : last + 1 < attempts
    · right
      rw [finished, if_pos ⟨hMore, hWorth⟩]
      exact cancelled_interrupted hWorth hCut
    · exact .inl (by omega)

/- What follows a delay learns whether it has passed. -/
private theorem run_pause_bind
    {α : Type}
    (d : Duration)
    (next : Bool → Act Failure σ α) :
    (Act.pause d >>= next).run w =
      if cut d w then
        (next false).run
          { w with now := max w.now (w.cancelledAt.getD 0) }
      else
        (next true).run
          { w with now := w.now + d.ceilMillis } := by
  rw [Act.run_bind, Act.run_pause]
  unfold cut
  by_cases hCut :
      w.cancelledBy (w.now + d.ceilMillis) = true
  · rw [if_pos hCut, if_pos hCut]
  · rw [if_neg hCut, if_neg hCut]

/- What is done after a call with some outcome, when so many
   calls are left. -/
private theorem run_calls_succ
    (left number : Nat)
    (delays : δ) :
    (calls retryable call (left + 1) number delays).run w =
      if 0 < left ∧
          worthAnother retryable (call.run w).1 = true then
        if cut (Delays.next delays).1 (call.run w).2 then
          ((call.run w).1,
            interrupted number (Delays.next delays).1
              (call.run w))
        else
          (calls retryable call left (number + 1)
            (Delays.next delays).2).run
              (waited number (Delays.next delays).1
                (call.run w))
      else call.run w := by
  rw [calls, Act.run_bind, Act.run_attempt]
  rcases call.run w with ⟨tried, after⟩
  cases tried with
  | ok => simp [worthAnother]
  | error failure =>
      by_cases hLast : left = 0 ∨ retryable failure = false
      · have hNoMore :
            ¬ (0 < left ∧
              worthAnother retryable
                (.error failure) = true) := by
          rintro ⟨hLeft, hRetry⟩
          rcases hLast with rfl | hFinal
          · cases hLeft
          · exact absurd (hFinal.symm.trans hRetry) (by simp)
        simp only [if_pos hLast, if_neg hNoMore,
          Act.run_fail]
      · have hMore :
            0 < left ∧
              worthAnother retryable
                (.error failure) = true := by
          rcases not_or.mp hLast with ⟨hLeft, hRetry⟩
          exact ⟨Nat.pos_of_ne_zero hLeft,
            Bool.not_eq_false _ ▸ hRetry⟩
        simp only [if_neg hLast, if_pos hMore]
        rw [Act.run_bind, Act.run_note]
        dsimp only
        rw [run_pause_bind]
        -- A notice has no part in when all is cancelled.
        change (if cut (Delays.next delays).1 after then _
          else _) = _
        split
        · simp [interrupted]
        · rfl

/-
  The calls that are left after a number of calls, none of
  which was final, go on up to the first final one.  The
  induction is on the number of calls left.
-/
private theorem run_calls_from
    (delays : δ)
    (n left : Nat)
    (hLeft : 0 < left)
    (hEarlier :
      ∀ m < n,
        ¬ Final retryable (n + left) (Delays.nth delays)
          call w m) :
    ∃ last,
      IsLeast
        {m | Final retryable (n + left) (Delays.nth delays)
          call w m} last ∧
      (calls retryable call left (n + 1)
        (Delays.rest delays n)).run
          (reached call (Delays.nth delays) w n) =
        ((tried call (Delays.nth delays) w last).1,
          finished retryable (n + left) (Delays.nth delays)
            call w last) := by
  induction left generalizing n with
  | zero => cases hLeft
  | succ left ih =>
      rw [run_calls_succ]
      change ∃ last, _ ∧
        (if 0 < left ∧
            worthAnother retryable
              (tried call (Delays.nth delays) w n).1 = true
          then
            if cut (Delays.nth delays n)
                (tried call (Delays.nth delays) w n).2 then
              ((tried call (Delays.nth delays) w n).1,
                interrupted (n + 1) (Delays.nth delays n)
                  (tried call (Delays.nth delays) w n))
            else
              (calls retryable call left (n + 1 + 1)
                (Delays.rest delays (n + 1))).run
                  (reached call (Delays.nth delays) w
                    (n + 1))
          else tried call (Delays.nth delays) w n) = _
      have hLeast
          (hFinal :
            Final retryable (n + (left + 1))
              (Delays.nth delays) call w n) :
          IsLeast
            {m | Final retryable (n + (left + 1))
              (Delays.nth delays) call w m} n := by
        refine ⟨hFinal, fun m hm => ?_⟩
        by_contra hLess
        exact hEarlier m (Nat.lt_of_not_le hLess) hm
      split
      next hMore =>
        have hGoes :
            n + 1 < n + (left + 1) ∧
              worthAnother retryable
                (tried call (Delays.nth delays) w n).1 =
                  true :=
          ⟨by omega, hMore.2⟩
        split
        next hCut =>
          refine ⟨n, hLeast (.inr (.inr hCut)), ?_⟩
          rw [finished, if_pos hGoes]
        next hWhole =>
          have hSum : n + 1 + left = n + (left + 1) := by omega
          have hNext := ih (n + 1) hMore.1
          rw [hSum] at hNext
          apply hNext
          intro m hm
          rcases Nat.lt_succ_iff_lt_or_eq.mp hm with
            hLess | rfl
          · exact hEarlier m hLess
          · rintro (hUsed | hDone | hCut)
            · omega
            · rw [hMore.2] at hDone
              cases hDone
            · exact hWhole hCut
      next hStop =>
        have hEnds :
            ¬ (n + 1 < n + (left + 1) ∧
              worthAnother retryable
                (tried call (Delays.nth delays) w n).1 =
                  true) := by
          rintro ⟨hLess, hRetry⟩
          exact hStop ⟨by omega, hRetry⟩
        refine ⟨n, hLeast ?_, ?_⟩
        · rcases not_and_or.mp hStop with hNone | hDone
          · exact .inl (by omega)
          · exact .inr (.inl (Bool.not_eq_true _ ▸ hDone))
        · rw [finished, if_neg hEnds]

/- The same from the first call on. -/
private theorem run_calls_first
    (retryable : Failure → Bool)
    (attempts : Nat)
    (delays : δ)
    (call : Act Failure σ Unit)
    (w : World σ)
    (hAttempts : 0 < attempts) :
    ∃ last,
      IsLeast
        {n | Final retryable attempts (Delays.nth delays)
          call w n} last ∧
      (calls retryable call attempts 1 delays).run w =
        ((tried call (Delays.nth delays) w last).1,
          finished retryable attempts (Delays.nth delays)
            call w last) := by
  have hNone :
      ∀ m < 0,
        ¬ Final retryable (0 + attempts) (Delays.nth delays)
          call w m :=
    fun m hm => absurd hm (Nat.not_lt_zero m)
  have hCalls := run_calls_from delays 0 attempts hAttempts hNone
  rwa [Nat.zero_add] at hCalls

/- Whether a call does what a plain one does, beside leaving
   an event for the world that it begins in. -/
def Records
    {E : Type}
    (recorded : Act Failure (Watched σ E) Unit)
    (plain : Act Failure σ Unit)
    (event : World σ → E) : Prop :=
  ∀ w events,
    recorded.run (w.beside events) =
      ((plain.run w).1,
        (plain.run w).2.beside (events ++ [event w]))

section Records

variable {E : Type}
variable {recorded : Act Failure (Watched σ E) Unit}
variable {event : World σ → E}

/- A delay leaves what is recorded as it is. -/
private theorem waited_beside
    (number : Nat)
    (d : Duration)
    (outcome : Except Failure Unit)
    (events : List E) :
    waited number d (outcome, w.beside events) =
      (waited number d (outcome, w)).beside events := by
  cases outcome with
  | ok => rfl
  | error failure =>
      have hNow : (w.beside events).now = w.now := rfl
      rw [waited, waited, hNow]
      -- The sum would be computed in comparing the worlds.
      generalize w.now + d.ceilMillis = finish
      rfl

/- Calls that are recorded begin and end as they do without
   a record. -/
private theorem reached_records
    (h : Records recorded call event)
    (n : Nat) :
    reached recorded delay (w.beside []) n =
      (reached call delay w n).beside
        ((List.range n).map fun m =>
          event (reached call delay w m)) := by
  induction n with
  | zero => rfl
  | succ n ih =>
      rw [reached, ih, h, waited_beside, List.range_succ,
        List.map_append]
      rfl

private theorem tried_records
    (h : Records recorded call event)
    (n : Nat) :
    tried recorded delay (w.beside []) n =
      ((tried call delay w n).1,
        (tried call delay w n).2.beside
          ((List.range (n + 1)).map fun m =>
            event (reached call delay w m))) := by
  rw [tried, reached_records h, h, List.range_succ,
    List.map_append]
  rfl

private theorem final_records
    (h : Records recorded call event)
    (n : Nat) :
    Final retryable attempts delay recorded (w.beside [])
        n ↔
      Final retryable attempts delay call w n := by
  unfold Final
  rw [tried_records h]
  rfl

private theorem finished_records
    (h : Records recorded call event)
    (n : Nat) :
    finished retryable attempts delay recorded
        (w.beside []) n =
      (finished retryable attempts delay call w n).beside
        ((List.range (n + 1)).map fun m =>
          event (reached call delay w m)) := by
  unfold finished
  rw [tried_records h]
  dsimp only
  split
  · rcases tried call delay w n with ⟨outcome, after⟩
    cases outcome <;> rfl
  · rfl

/- Repeated calls leave one event each, up to the first final
   one. -/
theorem run_calls_records
    {last : Nat}
    (h : Records recorded call event)
    (hAttempts : 0 < attempts)
    (delays : δ)
    (hLast :
      IsLeast
        {n | Final retryable attempts (Delays.nth delays)
          call w n}
        last) :
    (calls retryable recorded attempts 1 delays).run
        (w.beside []) =
      ((tried call (Delays.nth delays) w last).1,
        (finished retryable attempts (Delays.nth delays) call
          w last).beside
          ((List.range (last + 1)).map fun n =>
            event (reached call (Delays.nth delays) w n))) := by
  rcases run_calls_first retryable attempts delays recorded
      (w.beside []) hAttempts with
    ⟨last', hLast', hRun⟩
  simp only [final_records h] at hLast'
  cases hLast'.unique hLast
  rwa [tried_records h, finished_records h] at hRun

end Records

/- Repeated calls are as many as there is need for. -/
theorem repeats_calls
    (retryable : Failure → Bool)
    (attempts : Nat)
    (delays : δ) :
    Repeats retryable attempts (Delays.nth delays)
      (fun call => calls retryable call attempts 1 delays)
    where
  none := by
    rintro rfl σ call w
    rfl
  some := by
    intro hAttempts σ call w
    rcases run_calls_first retryable attempts delays call w
        hAttempts with
      ⟨last, hLast, hRun⟩
    have hRecords :
        Records (call.watched id) call
          (fun w => (call.run w).1) :=
      fun w events => Act.run_watched_beside id call events w
    exact ⟨last, hLast, hRun,
      run_calls_records hRecords hAttempts delays hLast⟩

end Retry

end Redeploy

------------------------------------------------------------
-- Policies
------------------------------------------------------------

namespace Redeploy

/- Whether a policy is another one with its zero fields
   replaced. -/
structure RetryPolicy.Fills
    (policy : RetryPolicy)
    (attempts : Nat)
    (period : Duration)
    (filled : RetryPolicy) : Prop where
  attempts_eq :
    filled.attempts =
      if policy.attempts = 0 then attempts
      else policy.attempts
  period_eq :
    filled.period =
      if policy.period.nanos = 0 then period
      else policy.period

/- Whether a policy is another one with its zero fields, and
   a multiplier that does not count, replaced. -/
structure BackoffPolicy.Fills
    (policy : BackoffPolicy)
    (attempts : Nat)
    (initial cap : Duration)
    (multiplier : Binary64)
    (filled : BackoffPolicy) : Prop where
  attempts_eq :
    filled.attempts =
      if policy.attempts = 0 then attempts
      else policy.attempts
  initial_eq :
    filled.initial =
      if policy.initial.nanos = 0 then initial
      else policy.initial
  cap_eq :
    filled.cap =
      if policy.cap.nanos = 0 then cap else policy.cap
  multiplier_eq :
    ((∃ r, policy.multiplier.value? = some r ∧ 1 ≤ r) →
      filled.multiplier = policy.multiplier) ∧
    ((¬ ∃ r, policy.multiplier.value? = some r ∧ 1 ≤ r) →
      filled.multiplier = multiplier)

theorem RetryPolicy.fills_orElse
    (policy defaults : RetryPolicy) :
    policy.Fills defaults.attempts defaults.period
      (policy.orElse defaults) where
  attempts_eq := rfl
  period_eq := by
    simp [orElse, Duration.isZero]

theorem RetryPolicy.Fills.attempts_pos
    {policy filled : RetryPolicy}
    {attempts : Nat}
    {period : Duration}
    (h : policy.Fills attempts period filled)
    (hAttempts : 0 < attempts) :
    0 < filled.attempts := by
  rw [h.attempts_eq]
  split <;> omega

/- A multiplier counts if it is a number of at least one. -/
theorem Binary64.isSome_growth?_iff
    (multiplier : Binary64) :
    multiplier.growth?.isSome = true ↔
      ∃ r, multiplier.value? = some r ∧ 1 ≤ r := by
  unfold growth?
  cases multiplier.value? with
  | none => simp
  | some r =>
      by_cases hGrows : 1 ≤ r
      · simp [hGrows]
      · simp [hGrows]

theorem BackoffPolicy.fills_orElse
    (policy defaults : BackoffPolicy) :
    policy.Fills defaults.attempts defaults.initial
      defaults.cap defaults.multiplier
      (policy.orElse defaults) where
  attempts_eq := rfl
  initial_eq := by
    simp [orElse, Duration.isZero]
  cap_eq := by
    simp [orElse, Duration.isZero]
  multiplier_eq := by
    rw [← Binary64.isSome_growth?_iff]
    exact ⟨fun hCounts => if_pos hCounts,
      fun hNot => if_neg hNot⟩

theorem BackoffPolicy.Fills.attempts_pos
    {policy filled : BackoffPolicy}
    {attempts : Nat}
    {initial cap : Duration}
    {multiplier : Binary64}
    (h :
      policy.Fills attempts initial cap multiplier filled)
    (hAttempts : 0 < attempts) :
    0 < filled.attempts := by
  rw [h.attempts_eq]
  split <;> omega

namespace Retry

/- Calls at fixed intervals are as many as there is need
   for. -/
theorem repeats_period
    (retryable : Failure → Bool)
    (attempts : Nat)
    (period : Duration) :
    Repeats retryable attempts (fun _ => period)
      (fun call =>
        calls retryable call attempts 1 period) := by
  rw [← Delays.nth_period period]
  exact repeats_calls retryable attempts period

/-
  Whatever the delays are, and for each of the ways to set
  them by a policy, calls are made up to the first one that
  is final, with the whole delays between them in order.  A
  wait, a poll and a creation make at least one call, since
  they replace what is zero in a policy.
-/
theorem repeats_by_policy
    (policy : RetryPolicy)
    (backoff : BackoffPolicy) :
    (∀ {δ : Type} [Delays δ] (retryable : Failure → Bool)
        (attempts : Nat) (delays : δ),
      Repeats retryable attempts (Delays.nth delays)
        (fun call =>
          calls retryable call attempts 1 delays)) ∧
    Repeats (fun _ => true) policy.attempts
      (fun _ => policy.period)
      (fun call => policy.retry call) ∧
    Repeats (fun _ => true) backoff.attempts
      (Delays.nth backoff.backoff)
      (fun call => backoff.retry call) ∧
    (∃ filled,
      policy.Fills 60 (.ofMillis 500) filled ∧
        0 < filled.attempts ∧
        Repeats Failure.isCompareFailed filled.attempts
          (fun _ => filled.period)
          (fun condition => policy.await condition)) ∧
    (∃ filled,
      policy.Fills 60 (.ofSecs 5) filled ∧
        0 < filled.attempts ∧
        ∃ repeated :
            {τ : Type} →
              Act Failure τ Unit → Act Failure τ Unit,
          Repeats (fun _ => true) filled.attempts
            (fun _ => filled.period) repeated ∧
          ∀ {σ : Type} (span : Option Span)
              (status : Act Failure σ Unit) (w : World σ),
            (policy.poll span status).run w =
              ((repeated status).within span).run
                { w with
                  log :=
                    w.log ++
                      [⟨span, .polling filled.attempts
                        filled.period⟩] }) ∧
    (∃ filled,
      backoff.Fills 8 (.ofMillis 500) (.ofSecs 10) .two
          filled ∧
        0 < filled.attempts ∧
        Repeats (fun _ => true) filled.attempts
          (Delays.nth filled.backoff)
          (fun create => backoff.createWith create)) := by
  have hAwait := policy.fills_orElse .deleteWait
  have hPoll := policy.fills_orElse .status
  have hCreate := backoff.fills_orElse .create
  refine ⟨fun retryable attempts delays =>
      repeats_calls retryable attempts delays,
    repeats_period _ _ _, repeats_calls _ _ _, ?_, ?_, ?_⟩
  · exact ⟨_, hAwait, hAwait.attempts_pos (by decide),
      repeats_period _ _ _⟩
  · refine ⟨_, hPoll, hPoll.attempts_pos (by decide),
      fun status => (policy.orElse .status).retry status,
      repeats_period _ _ _, ?_⟩
    intro σ span status w
    rfl
  · exact ⟨_, hCreate, hCreate.attempts_pos (by decide),
      repeats_calls _ _ _⟩

end Retry

end Redeploy
