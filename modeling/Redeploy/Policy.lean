import Redeploy.Binary64
import Redeploy.Backoff

/-
  How often to try, and how long to wait in between.

  Key definitions include:
    * `RetryPolicy`
    * `BackoffPolicy`
    * `Settings`

  A zero field of a policy means "unset": `orElse` fills it
  from another policy.
-/

------------------------------------------------------------
-- Fixed Periods
------------------------------------------------------------

namespace Redeploy

/- A number of calls, the first included, and the wait
   between two of them. -/
structure RetryPolicy where
  attempts : Nat
  period : Duration
deriving DecidableEq

namespace RetryPolicy

/- Replace zero fields by those of `defaults`. -/
def orElse
    (policy defaults : RetryPolicy) : RetryPolicy where
  attempts :=
    if policy.attempts = 0 then defaults.attempts
    else policy.attempts
  period :=
    if policy.period.isZero then defaults.period
    else policy.period

/- Polling the status of a workload. -/
def status : RetryPolicy where
  attempts := 60
  period := .ofSecs 5

/- Waiting for a deletion to be carried out. -/
def deleteWait : RetryPolicy where
  attempts := 60
  period := .ofMillis 500

end RetryPolicy

end Redeploy

------------------------------------------------------------
-- Growing Delays
------------------------------------------------------------

namespace Redeploy

/- A number of calls, the first included, and the delays
   between them. -/
structure BackoffPolicy where
  attempts : Nat
  initial : Duration
  cap : Duration
  multiplier : Binary64
deriving DecidableEq

namespace BackoffPolicy

/- Replace zero or unusable fields by those of `defaults`. -/
def orElse
    (policy defaults : BackoffPolicy) : BackoffPolicy where
  attempts :=
    if policy.attempts = 0 then defaults.attempts
    else policy.attempts
  initial :=
    if policy.initial.isZero then defaults.initial
    else policy.initial
  cap :=
    if policy.cap.isZero then defaults.cap
    else policy.cap
  multiplier :=
    if policy.multiplier.growth?.isSome then
      policy.multiplier
    else defaults.multiplier

/- Creating an object whose predecessor is on its way out. -/
def create : BackoffPolicy where
  attempts := 8
  initial := .ofMillis 500
  cap := .ofSecs 10
  multiplier := .two

/- The delays of a policy. -/
def backoff
    (policy : BackoffPolicy) : Backoff :=
  .start policy.initial policy.cap policy.multiplier

end BackoffPolicy

end Redeploy

------------------------------------------------------------
-- Settings
------------------------------------------------------------

namespace Redeploy

/- The policies of a controller. -/
structure Settings where
  status : RetryPolicy := .status
  deleteWait : RetryPolicy := .deleteWait
  createBackoff : BackoffPolicy := .create
deriving DecidableEq

end Redeploy
