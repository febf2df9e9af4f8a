import Redeploy.NodePods

/-
  Readiness of workloads that run one pod on each node.

  Key definitions include:
    * `Readiness`
    * `NodePods.finding`
    * `NodePods.readiness`
    * `NodePods.requireUp`
    * `PodSpec.nodes`

  Every expected node must have its pod, and each pod must
  be running or have run to completion.
-/

------------------------------------------------------------
-- Findings
------------------------------------------------------------

namespace Redeploy

/- How the pods of a workload are. -/
inductive Readiness where
  /- All run and are ready, or have completed. -/
  | ready
  /- One runs but is not ready. -/
  | notReady
  /- All have completed. -/
  | completed
deriving DecidableEq, Repr

/- What there is on one expected node. -/
inductive Finding where
  | missing
  | finished (pod : Pod)
  | running (pod : Pod)
  | stalled (pod : Pod)
deriving DecidableEq

namespace NodePods

/- What there is on the node of a name. -/
def finding
    (pods : NodePods)
    (node : String) : Finding :=
  match pods.get? node with
  | none => .missing
  | some pod =>
      if pod.phase = "Failed" ∨ pod.phase = "Succeeded" then
        .finished pod
      else if pod.phase = "Running" then .running pod
      else .stalled pod

end NodePods

namespace Finding

/- What there is to say of a node that was looked at. -/
def notice?
    (node : String) : Finding → Option Notice
  | .missing => some (.noPod node)
  | .finished pod =>
      some (.podFinished node pod.metadata pod.phase)
  | .running pod =>
      if pod.isReady then
        some (.podRunning node pod.metadata)
      else none
  | .stalled _ => none

/- Why the workload cannot be ready with such a node. -/
def failure?
    (node : String) : Finding → Option Failure
  | .missing =>
      some (.notFound ("no pod found on node " ++ node))
  | .stalled pod =>
      some (.compareFailed
        ("pod " ++ pod.metadata.path ++
          " is not running yet, status: " ++
          Text.quoted pod.phase ++ ", ready: false"))
  | .finished _ | .running _ => none

/- A pod that runs but is not ready. -/
def isUnready : Finding → Bool
  | .running pod => !pod.isReady
  | _ => false

def isFinished : Finding → Bool
  | .finished _ => true
  | _ => false

end Finding

/- The readiness that findings without a failure add up to. -/
def Readiness.ofFindings
    (findings : List Finding) : Readiness :=
  if findings.any Finding.isUnready then .notReady
  else if findings.all Finding.isFinished then .completed
  else .ready

end Redeploy

------------------------------------------------------------
-- Checks
------------------------------------------------------------

namespace Redeploy

namespace NodePods

variable {σ : Type}

/- Look at one expected node. -/
def inspect
    (pods : NodePods)
    (span : Option Span)
    (node : Node) : Act Failure σ Finding := do
  let finding := pods.finding node.name
  if let some notice := finding.notice? node.name then
    .noteIn span notice
  match finding.failure? node.name with
  | some failure => .fail failure
  | none => return finding

/- The readiness of pods on the expected nodes; the first
   node that cannot be ready fails the check. -/
def readiness
    (pods : NodePods)
    (nodes : List Node)
    (span : Option Span) : Act Failure σ Readiness := do
  if nodes.isEmpty then
    .fail (.notFound
      ("no nodes to check " ++ toString pods.size ++
        " pods against"))
  else
    let findings ← nodes.mapM (pods.inspect span)
    return .ofFindings findings

/- Succeeds if the pods are ready or have completed. -/
def requireUp
    (pods : NodePods)
    (nodes : List Node)
    (span : Option Span) : Act Failure σ Unit := do
  match ← pods.readiness nodes span with
  | .ready | .completed => pure ()
  | .notReady =>
      .fail (.compareFailed "pods are running but not ready yet")

end NodePods

end Redeploy

------------------------------------------------------------
-- Expected Nodes
------------------------------------------------------------

namespace Redeploy

namespace PodSpec

/- The selector of the nodes that a pod may run on. -/
def selector
    (spec : PodSpec) : String :=
  (spec.nodeSelector.map Labels.selector).getD ""

/- The nodes that a pod may run on. -/
def nodes
    {σ : Type}
    (client : Client σ)
    (spec : PodSpec) : Act Failure σ (List Node) :=
  Client.request (client.listNodes spec.selector)

end PodSpec

end Redeploy
