import Redeploy.Client
import Redeploy.CreatedBy
import Redeploy.Selector

/-
  The pods of one owner, by the node they run on.

  Key definitions include:
    * `NodePods`
    * `Pod.ownership`
    * `NodePods.ofOwned`
    * `NodePods.collect`
    * `NodePods.delete`

  Labels do not tell an object from an earlier one of the
  same name, so a pod counts as owned only by its record of
  who created it.  Of two owned pods on one node the later
  one in the server's list is kept.
-/

------------------------------------------------------------
-- Ownership
------------------------------------------------------------

namespace Redeploy

/- What a pod's annotation says of its owner. -/
inductive Ownership where
  | unknown
  | unreadable (failure : Failure)
  | foreign
  | owned
deriving DecidableEq

/- Whether a pod belongs to the owner asked for. -/
def Pod.ownership
    (isOwner : OwnerReference → Bool)
    (pod : Pod) : Ownership :=
  match pod.metadata.annotationText? CreatedBy.annotationKey with
  | none => .unknown
  | some text =>
      match OwnerReference.ofRecordText text with
      | .error failure => .unreadable failure
      | .ok reference =>
          if isOwner reference then .owned else .foreign

/- What there is to say of a pod that was looked at. -/
def Pod.notice?
    (isOwner : OwnerReference → Bool)
    (pod : Pod) : Option Notice :=
  match pod.ownership isOwner with
  | .unreadable failure =>
      some (.podSkipped pod.metadata failure)
  | .owned => some (.podFound pod.metadata pod.nodeName)
  | .unknown | .foreign => none

end Redeploy

------------------------------------------------------------
-- Collection
------------------------------------------------------------

namespace Redeploy

/- Pods by node name. -/
abbrev NodePods := Table String Pod

namespace NodePods

variable {σ : Type}

/- The owned pods of a list. -/
def ofOwned
    (isOwner : OwnerReference → Bool)
    (pods : List Pod) : NodePods :=
  (pods.filter fun pod =>
      pod.ownership isOwner == .owned).foldl
    (fun set pod => set.insert pod.nodeName pod) .empty

/- The owned pods of a namespace that have some labels. -/
def collect
    (client : Client σ)
    (ns : String)
    (matchLabels : Option Labels)
    (span : Option Span)
    (isOwner : OwnerReference → Bool) :
    Act Failure σ NodePods := do
  let selector := (matchLabels.map Labels.selector).getD ""
  let pods ← Client.request (client.listPods ns selector)
  (pods.filterMap (·.notice? isOwner)).forM (.noteIn span)
  return ofOwned isOwner pods

end NodePods

end Redeploy

------------------------------------------------------------
-- Deletion
------------------------------------------------------------

namespace Redeploy

variable {σ : Type}

/- Delete one pod; a pod that is gone counts as deleted. -/
def Pod.delete
    (client : Client σ)
    (ns : String)
    (span : Option Span)
    (pod : Pod) : Act Failure σ Unit := do
  .noteIn span (.deletingPod pod.metadata)
  let key : ObjectKey :=
    { ns := pod.metadata.ns.getD ns
      name := pod.metadata.nameText }
  match ← (Client.request (client.deletePod key)).attempt with
  | .ok () => pure ()
  | .error failure =>
      if failure.isNotFound then
        .noteIn span (.podGone key.name)
      else .fail failure

/- Delete the pods of a set, in the order of the nodes. -/
def NodePods.delete
    (client : Client σ)
    (ns : String)
    (span : Option Span)
    (pods : NodePods) : Act Failure σ Unit :=
  pods.values.forM (Pod.delete client ns span)

end Redeploy
