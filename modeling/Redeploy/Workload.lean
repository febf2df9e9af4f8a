import Redeploy.Identity
import Redeploy.NodePods
import Redeploy.Retry

/-
  Replacing and deleting workloads that cannot be changed.

  Key definitions include:
    * `Workload`
    * `Workload.upsert`
    * `Workload.delete`

  Nothing is rolled back: if a replacement fails after the
  old object was deleted, there is no object until the next
  one.
-/

------------------------------------------------------------
-- Workloads
------------------------------------------------------------

namespace Redeploy

/- What a kind of workload can do about one object. -/
structure Workload (σ Object : Type) where
  /- The object that is wanted. -/
  identity : Identity
  /- Where notices on its pods belong. -/
  span : Option Span
  client : Client σ
  /- The object that exists under its name. -/
  find : Act Failure σ Object
  /- The pods that this very object created. -/
  podsOf : Object → Act Failure σ NodePods
  remove : Option Propagation → Act Failure σ Unit
  /- Create the object that is wanted, as a new one. -/
  create : Act Failure σ Unit
  /- Succeeds once the object is where it should be. -/
  status : Act Failure σ Unit

namespace Workload

variable {σ Object : Type}

/- The object that exists, if there is one. -/
def current?
    (workload : Workload σ Object) :
    Act Failure σ (Option Object) := do
  match ← workload.find.attempt with
  | .ok object => return some object
  | .error failure =>
      if failure.isNotFound then return none
      else .fail failure

/- Delete pods that were collected before. -/
def deletePods
    (workload : Workload σ Object)
    (pods : NodePods) : Act Failure σ Unit :=
  pods.delete workload.client workload.identity.ns
    workload.span

end Workload

end Redeploy

------------------------------------------------------------
-- Replacement
------------------------------------------------------------

namespace Redeploy

namespace Workload

variable {σ Object : Type}

/- Delete the object that exists, and keep hold of its
   pods. -/
def clear
    (workload : Workload σ Object)
    (object : Object) : Act Failure σ NodePods := do
  let pods ← workload.podsOf object
  .note (.deletingCurrent workload.identity.kind)
  workload.remove none
  return pods

/-
  Create a workload in place of the one that exists, if any.
  The pods of the old one are deleted once the new one is
  there.
-/
def upsert
    (workload : Workload σ Object)
    (backoff : BackoffPolicy) : Act Failure σ Unit := do
  let kind := workload.identity.kind
  .note (.upserting workload.identity.key)
  let stale ←
    match ← workload.current? with
    | some object => some <$> workload.clear object
    | none => pure none
  .note (.creating kind)
  backoff.createWith workload.create
  .note (.created kind)
  match stale with
  | some pods =>
      .note (.deletingStalePods kind)
      workload.deletePods pods
  | none => pure ()

end Workload

end Redeploy

------------------------------------------------------------
-- Deletion
------------------------------------------------------------

namespace Redeploy

namespace Workload

variable {σ Object : Type}

/- Succeeds once no object exists; says "not yet" while one
   does. -/
def absent
    (workload : Workload σ Object) :
    Act Failure σ Unit := do
  match ← workload.current? with
  | none => pure ()
  | some _ =>
      .fail (.compareFailed
        (workload.identity.kind ++ " " ++
          workload.identity.path ++ " is still present"))

/-
  Delete a workload, dependents first, and wait until it is
  gone.  A cascade deletes the pods it leaves.
-/
def delete
    (workload : Workload σ Object)
    (cascade : Bool)
    (wait : RetryPolicy) : Act Failure σ Unit := do
  .note (.deleting workload.identity.key)
  let object ← workload.find
  let pods ←
    if cascade then workload.podsOf object
    else do
      .note .leavingPods
      pure Table.empty
  .note (.deletingCurrent workload.identity.kind)
  workload.remove (some .foreground)
  wait.await workload.absent
  if pods.isEmpty then pure ()
  else
    .note .deletingPods
    workload.deletePods pods

end Workload

end Redeploy
