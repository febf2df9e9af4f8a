import Redeploy.Binary64
import Redeploy.Duration

/-
  Delays that grow from one failure to the next.

  Key definitions include:
    * `Backoff`
    * `Backoff.start`
    * `Backoff.next`
    * `Backoff.reset`
    * `Backoff.delays`

  Every delay is the one before it times a growth factor,
  and none is longer than the cap.  The product is taken in
  doubles; one that is out of range counts as the cap.
-/

------------------------------------------------------------
-- Growth
------------------------------------------------------------

namespace Redeploy

/-
  The factor that a multiplier stands for, if it is a number
  that does not shrink delays.
-/
def Binary64.growth?
    (multiplier : Binary64) : Option Rat :=
  match multiplier.value? with
  | some r => if 1 ≤ r then some r else none
  | none => none

/- A delay grown once, unless the result is out of range. -/
def Duration.grow?
    (d : Duration)
    (factor : Rat) : Option Duration :=
  (double? (d.seconds * factor)).bind Duration.ofSeconds?

end Redeploy

------------------------------------------------------------
-- Delay Sequences
------------------------------------------------------------

namespace Redeploy

/- A sequence of delays and the place reached in it. -/
structure Backoff where
  initial : Duration
  cap : Duration
  factor : Rat
  current : Duration
deriving DecidableEq

namespace Backoff

/-
  The sequence that begins at `initial`, or at the cap if
  that is shorter.  An unusable multiplier counts as one.
-/
def start
    (initial cap : Duration)
    (multiplier : Binary64) : Backoff where
  initial := initial
  cap := cap
  factor := multiplier.growth?.getD 1
  current := min initial cap

/- The delay after `d` in the sequence. -/
def after
    (b : Backoff)
    (d : Duration) : Duration :=
  match d.grow? b.factor with
  | some longer => min longer b.cap
  | none => b.cap

/- Take the current delay. -/
def next
    (b : Backoff) : Duration × Backoff :=
  (b.current, { b with current := b.after b.current })

/- Go back to the first delay. -/
def reset
    (b : Backoff) : Backoff :=
  { b with current := min b.initial b.cap }

/- The next `n` delays, and what is left of the sequence. -/
def delays
    (b : Backoff) : Nat → List Duration × Backoff
  | 0 => ([], b)
  | n + 1 =>
      let (d, rest) := b.next
      let (ds, last) := rest.delays n
      (d :: ds, last)

end Backoff

end Redeploy
