import Redeploy.Proofs.Act.Watched
import Redeploy.Workload

/-
  Workloads that leave a record, and the plain ones that they
  amount to.

  Key definitions include:
    * `Workload.ErasesTo`

  Main results:
    * `Workload.ErasesTo.upsert`
    * `Workload.ErasesTo.delete`

  Where each capability of a workload does what one of a
  plain workload does, beside leaving events, so do the
  operations that are made of them.
-/

------------------------------------------------------------
-- Repeated Calls and Pods
------------------------------------------------------------

namespace Redeploy

open Act (Erases)

variable {σ E : Type}

theorem Retry.erases_calls
    {δ : Type}
    [Delays δ]
    {retryable : Failure → Bool}
    {call : Act Failure (Watched σ E) Unit}
    {plain : Act Failure σ Unit}
    (hCall : call.Erases plain)
    (left number : Nat)
    (delays : δ) :
    (Retry.calls retryable call left number delays).Erases
      (Retry.calls retryable plain left number delays) := by
  induction left generalizing number delays with
  | zero => exact .pure ()
  | succ left ih =>
      rw [Retry.calls, Retry.calls]
      refine hCall.attempt.bind fun tried => ?_
      cases tried with
      | ok => exact .pure ()
      | error e =>
          dsimp only
          split
          next => exact .fail e
          next =>
            refine (Erases.note _).bind fun _ => ?_
            refine (Erases.pause _).bind fun elapsed => ?_
            cases elapsed with
            | true => exact ih _ _
            | false =>
                exact (Erases.note _).bind fun _ => .fail e

section Pods

variable {client : Client (Watched σ E)}
variable {plain : Client σ}

theorem Pod.erases_delete
    (hDelete :
      ∀ key,
        (client.deletePod key).Erases (plain.deletePod key))
    (ns : String)
    (span : Option Span)
    (pod : Pod) :
    (Pod.delete client ns span pod).Erases
      (Pod.delete plain ns span pod) := by
  unfold Pod.delete
  refine (Erases.noteIn _ _).bind fun _ => ?_
  refine ((hDelete _).mapError _).attempt.bind fun tried => ?_
  cases tried with
  | ok => exact .pure ()
  | error e =>
      dsimp only
      split
      next => exact .noteIn _ _
      next => exact .fail e

theorem NodePods.erases_delete
    (hDelete :
      ∀ key,
        (client.deletePod key).Erases (plain.deletePod key))
    (ns : String)
    (span : Option Span)
    (pods : NodePods) :
    (pods.delete client ns span).Erases
      (pods.delete plain ns span) := by
  unfold NodePods.delete
  induction pods.values with
  | nil => exact .pure ()
  | cons pod rest ih =>
      exact (Pod.erases_delete hDelete ns span pod).bind
        fun _ => ih

end Pods

end Redeploy

------------------------------------------------------------
-- Workloads
------------------------------------------------------------

namespace Redeploy

open Act (Erases)

namespace Workload

variable {σ E Object : Type}

/- Whether the capabilities of a workload do what those of a
   plain one do, beside leaving events. -/
structure ErasesTo
    (workload : Workload (Watched σ E) Object)
    (plain : Workload σ Object) : Prop where
  identity : workload.identity = plain.identity
  span : workload.span = plain.span
  find : workload.find.Erases plain.find
  podsOf :
    ∀ object,
      (workload.podsOf object).Erases (plain.podsOf object)
  remove :
    ∀ propagation,
      (workload.remove propagation).Erases
        (plain.remove propagation)
  create : workload.create.Erases plain.create
  deletePod :
    ∀ key,
      (workload.client.deletePod key).Erases
        (plain.client.deletePod key)

namespace ErasesTo

variable {workload : Workload (Watched σ E) Object}
variable {plain : Workload σ Object}

theorem current?
    (h : workload.ErasesTo plain) :
    workload.current?.Erases plain.current? := by
  unfold Workload.current?
  refine h.find.attempt.bind fun tried => ?_
  cases tried with
  | ok object => exact .pure _
  | error e =>
      dsimp only
      split
      next => exact .pure _
      next => exact .fail e

theorem clear
    (h : workload.ErasesTo plain)
    (object : Object) :
    (workload.clear object).Erases (plain.clear object) := by
  unfold Workload.clear
  rw [h.identity]
  refine (h.podsOf object).bind fun pods => ?_
  refine (Erases.note _).bind fun _ => ?_
  exact (h.remove none).bind fun _ => .pure pods

theorem deletePods
    (h : workload.ErasesTo plain)
    (pods : NodePods) :
    (workload.deletePods pods).Erases
      (plain.deletePods pods) := by
  unfold Workload.deletePods
  rw [h.identity, h.span]
  exact NodePods.erases_delete h.deletePod _ _ pods

theorem absent
    (h : workload.ErasesTo plain) :
    workload.absent.Erases plain.absent := by
  unfold Workload.absent
  rw [h.identity]
  refine h.current?.bind fun seen => ?_
  cases seen with
  | none => exact .pure ()
  | some object => exact .fail _

/- A replacement does what that of the plain workload does. -/
theorem upsert
    (h : workload.ErasesTo plain)
    (backoff : BackoffPolicy) :
    (workload.upsert backoff).Erases
      (plain.upsert backoff) := by
  unfold Workload.upsert
  rw [h.identity]
  refine (Erases.note _).bind fun _ => ?_
  refine h.current?.bind fun seen => ?_
  cases seen
  case' none => refine (Erases.pure _).bind fun stale => ?_
  case' some object =>
    refine (h.clear object).map.bind fun stale => ?_
  -- What follows is the same whether or not there is an
  -- object to replace.
  all_goals
    refine (Erases.note _).bind fun _ => ?_
    refine (Retry.erases_calls h.create _ _ _).bind
      fun _ => ?_
    refine (Erases.note _).bind fun _ => ?_
    cases stale with
    | none => exact .pure ()
    | some pods =>
        exact (Erases.note _).bind fun _ => h.deletePods pods

/- A deletion does what that of the plain workload does. -/
theorem delete
    (h : workload.ErasesTo plain)
    (cascade : Bool)
    (wait : RetryPolicy) :
    (workload.delete cascade wait).Erases
      (plain.delete cascade wait) := by
  unfold Workload.delete
  rw [h.identity]
  refine (Erases.note _).bind fun _ => ?_
  refine h.find.bind fun object => ?_
  cases cascade
  case' false =>
    refine (Erases.note _).bind fun _ => ?_
    refine (Erases.pure _).bind fun pods => ?_
  case' true =>
    refine (h.podsOf object).bind fun pods => ?_
  -- What follows is the same whether or not the pods are
  -- taken along.
  all_goals
    refine (Erases.note _).bind fun _ => ?_
    refine (h.remove _).bind fun _ => ?_
    refine (Retry.erases_calls h.absent _ _ _).bind
      fun _ => ?_
    split
    next => exact .pure ()
    next =>
      exact (Erases.note _).bind fun _ => h.deletePods pods

end ErasesTo

end Workload

end Redeploy
