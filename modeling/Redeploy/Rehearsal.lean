import Redeploy.JobController

/-
  Workloads and calls that answer as prepared.

  Key definitions include:
    * `Outcomes`
    * `Outcomes.ofList`
    * `Rehearsal.call`
    * `Step`
    * `Script.workload`

  A rehearsal tries out what a controller does: each call
  leaves a trace and then ends as its outcomes say.
-/

------------------------------------------------------------
-- Outcomes
------------------------------------------------------------

namespace Redeploy

/- How the calls of one kind end, by their number from 0. -/
abbrev Outcomes := Nat → Except Failure Unit

/- The outcomes of a list, of which the last repeats for
   ever; without any, every call succeeds. -/
def Outcomes.ofList
    (outcomes : List (Except Failure Unit)) : Outcomes :=
  fun n =>
    outcomes[n]?.getD (outcomes.getLast?.getD (.ok ()))

end Redeploy

------------------------------------------------------------
-- Calls
------------------------------------------------------------

namespace Redeploy

namespace Rehearsal

/- Put an entry at the end of a trace. -/
def record
    {ε α : Type}
    (entry : α) : Act ε (List α) Unit :=
  .ofStep fun trace => (.ok (), trace ++ [entry])

/- Put the time at the end of a trace of times. -/
def recordTime
    {ε : Type} : Act ε (List Nat) Unit :=
  fun w => record w.now w

/-
  A call that keeps the times it is made at.  All may be
  cancelled during the call of a number, counted from 1.
-/
def call
    (outcomes : Outcomes)
    (cancelOn : Option Nat) : Act Failure (List Nat) Unit :=
  fun w =>
    let number := w.system.length
    let act : Act Failure (List Nat) Unit := do
      recordTime
      if cancelOn = some (number + 1) then .cancel
      .ofExcept (outcomes number)
    act w

end Rehearsal

end Redeploy

------------------------------------------------------------
-- Workloads
------------------------------------------------------------

namespace Redeploy

/- A use of a workload's capability. -/
inductive Step where
  | find
  | podsOf (object : Nat)
  | remove (propagation : Option Propagation)
  | create
deriving DecidableEq

/- The capabilities that steps are uses of. -/
inductive Capability where
  | find
  | podsOf
  | remove
  | create
deriving DecidableEq

def Step.capability : Step → Capability
  | .find => .find
  | .podsOf _ => .podsOf
  | .remove _ => .remove
  | .create => .create

/- A system beside the trace of a workload on it. -/
structure Rehearsal (τ : Type) where
  system : τ
  trace : List Step := []

/- How a workload behaves: its outcomes and its pods. -/
structure Script where
  outcomes : Capability → Outcomes
  pods : NodePods

namespace Script

variable {τ : Type}

/- Leave a step in the trace and end as prepared. -/
def perform
    (script : Script)
    (step : Step) : Act Failure (Rehearsal τ) Unit :=
  .ofStep fun r =>
    let number :=
      r.trace.countP (·.capability == step.capability)
    (script.outcomes step.capability number,
      { r with trace := r.trace ++ [step] })

/- The number of steps so far. -/
def position : Act Failure (Rehearsal τ) Nat :=
  fun w => (.ok w.system.trace.length, w)

/-
  A workload that follows a script.  The object that it
  finds is the number of steps up to then.
-/
def workload
    (script : Script)
    (client : Client τ)
    (identity : Identity)
    (span : Option Span) : Workload (Rehearsal τ) Nat where
  identity := identity
  span := span
  client :=
    client.zoom (·.system) fun r system => { r with system }
  find := do
    script.perform .find
    position
  podsOf object := do
    script.perform (.podsOf object)
    return script.pods
  remove propagation :=
    script.perform (.remove propagation)
  create := script.perform .create
  status := pure ()

end Script

end Redeploy
