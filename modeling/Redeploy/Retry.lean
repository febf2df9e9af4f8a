import Redeploy.Act
import Redeploy.Policy

/-
  Calling again after a failure.

  Key definitions include:
    * `Delays`
    * `Retry.calls`
    * `RetryPolicy.retry`, `BackoffPolicy.retry`
    * `RetryPolicy.await`
    * `RetryPolicy.poll`
    * `BackoffPolicy.createWith`
    * `Retry.orRecover`

  Calls are made one after the other, at most as many as a
  policy allows, with a pause between two of them.  The
  failure of the last call is returned as it is.  A call
  under way is always finished: cancellation is seen in
  pauses only.
-/

------------------------------------------------------------
-- Delays
------------------------------------------------------------

namespace Redeploy

/- An endless sequence of delays, given by a state. -/
class Delays (δ : Type) where
  next : δ → Duration × δ

/- The same delay over and over. -/
instance : Delays Duration where
  next d := (d, d)

instance : Delays Backoff where
  next := Backoff.next

end Redeploy

------------------------------------------------------------
-- Repeated Calls
------------------------------------------------------------

namespace Redeploy

namespace Retry

variable {σ δ : Type} [Delays δ]

/-
  Make at most `left` calls, the first of them with the
  given number, until one succeeds or fails in a way that
  is not worth another.  No call at all is a success.
-/
def calls
    (retryable : Failure → Bool)
    (call : Act Failure σ Unit) :
    Nat → Nat → δ → Act Failure σ Unit
  | 0, _, _ => pure ()
  | left + 1, number, delays => do
      match ← call.attempt with
      | .ok () => pure ()
      | .error failure =>
          if left = 0 ∨ retryable failure = false then
            .fail failure
          else
            let (delay, delays) := Delays.next delays
            .note (.retrying (number + 1) failure delay)
            if ← .pause delay then
              calls retryable call left (number + 1) delays
            else
              .note .closing
              .fail failure

end Retry

/- Call at fixed intervals until a call succeeds. -/
def RetryPolicy.retry
    {σ : Type}
    (policy : RetryPolicy)
    (call : Act Failure σ Unit) : Act Failure σ Unit :=
  Retry.calls (fun _ => true) call
    policy.attempts 1 policy.period

/- Call at growing intervals until a call succeeds. -/
def BackoffPolicy.retry
    {σ : Type}
    (policy : BackoffPolicy)
    (call : Act Failure σ Unit) : Act Failure σ Unit :=
  Retry.calls (fun _ => true) call
    policy.attempts 1 policy.backoff

end Redeploy

------------------------------------------------------------
-- Polling
------------------------------------------------------------

namespace Redeploy

variable {σ : Type}

/-
  Check a condition at fixed intervals until it holds.  The
  condition answers "not yet" by `compareFailed`; any other
  failure ends the wait.
-/
def RetryPolicy.await
    (policy : RetryPolicy)
    (condition : Act Failure σ Unit) :
    Act Failure σ Unit :=
  let policy := policy.orElse .deleteWait
  Retry.calls Failure.isCompareFailed condition
    policy.attempts 1 policy.period

/- Check a status in its span until it is a success. -/
def RetryPolicy.poll
    (policy : RetryPolicy)
    (span : Option Span)
    (status : Act Failure σ Unit) :
    Act Failure σ Unit := do
  let policy := policy.orElse .status
  .noteIn span (.polling policy.attempts policy.period)
  .within span (policy.retry status)

/-
  Create an object, at growing intervals: right after a
  deletion the server may still hold the predecessor.
-/
def BackoffPolicy.createWith
    (policy : BackoffPolicy)
    (create : Act Failure σ Unit) : Act Failure σ Unit :=
  (policy.orElse .create).retry create

end Redeploy

------------------------------------------------------------
-- Recovery
------------------------------------------------------------

namespace Redeploy

/-
  Act; after a failure recover, and fail as the action did.
  How the recovery went is only noted.
-/
def Retry.orRecover
    {σ : Type}
    (act recover : Act Failure σ Unit) :
    Act Failure σ Unit := do
  match ← act.attempt with
  | .ok () => .note .noRecovery
  | .error failure =>
      .note (.recovering failure)
      match ← recover.attempt with
      | .ok () => .note .recovered
      | .error e => .note (.recoveryFailed e)
      .fail failure

end Redeploy
