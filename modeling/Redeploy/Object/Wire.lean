import Redeploy.Json.Decode
import Redeploy.Object.Job
import Redeploy.Object.Pod

/-
  Objects as JSON.

  Key definitions include:
    * `Metadata.ofJson`, `Metadata.toJson`
    * `Condition.ofJson`, `Condition.toJson`
    * `Job.ofJson`, `Job.toJson`
    * `Pod.ofJson`
    * `Node.ofJson`

  Reading drops members that no field stands for, so that
  there is no rest to what is read, and takes null for
  absent.  An object may leave out its kind and its API
  version but not claim others.  Nothing is kept of the spec
  and the status of a node, but they have to be well formed.
  Writing leaves out absent fields and has the rest of each
  record after its fields; a job's spec always has its
  template.
-/

------------------------------------------------------------
-- Metadata
------------------------------------------------------------

namespace Redeploy

open Json (optional asText asTextTable)

namespace Metadata

def ofJson : Json → Except Json.Fault Metadata :=
  Json.fold ({} : Metadata) fun m key value => do
    match key with
    | "name" =>
        return { m with name := ← optional asText value }
    | "namespace" =>
        return { m with ns := ← optional asText value }
    | "uid" =>
        return { m with uid := ← optional asText value }
    | "resourceVersion" =>
        return { m with
          resourceVersion := ← optional asText value }
    | "selfLink" =>
        return { m with selfLink := ← optional asText value }
    | "generateName" =>
        return { m with
          generateName := ← optional asText value }
    | "labels" =>
        return { m with
          labels := ← optional asTextTable value }
    | "annotations" =>
        return { m with
          annotations := ← optional asTextTable value }
    | _ => return m

end Metadata

/- The object whose members are the entries of a table. -/
def Labels.toJson
    (labels : Labels) : Json :=
  .object (labels.toList.map fun e =>
    (some e.1, .ofText e.2))

def Metadata.toJson
    (m : Metadata) : Json :=
  .ofMembers
    ([("name", m.name.map .ofText),
      ("namespace", m.ns.map .ofText),
      ("uid", m.uid.map .ofText),
      ("resourceVersion", m.resourceVersion.map .ofText),
      ("selfLink", m.selfLink.map .ofText),
      ("generateName", m.generateName.map .ofText),
      ("labels", m.labels.map Labels.toJson),
      ("annotations", m.annotations.map Labels.toJson)] ++
      m.rest.listed)

/- A member that has to say what is known already. -/
def Json.constant
    (expected : String)
    (value : Json) : Except Json.Fault Unit := do
  if (← value.asText) = expected then return
  else throw (.unexpectedValue expected)

end Redeploy

------------------------------------------------------------
-- Conditions
------------------------------------------------------------

namespace Redeploy

open Json (optional asText)

def Condition.ofJson : Json → Except Json.Fault Condition :=
  Json.fold ({} : Condition) fun condition key value => do
    match key with
    | "type" =>
        let type ← optional asText value
        return { condition with type := type.getD "" }
    | "status" =>
        let status ← optional asText value
        return { condition with status := status.getD "" }
    | _ => return condition

def Condition.toJson
    (condition : Condition) : Json :=
  .ofMembers
    ([("type", some (.ofText condition.type)),
      ("status", some (.ofText condition.status))] ++
      condition.rest.listed)

end Redeploy

------------------------------------------------------------
-- Jobs
------------------------------------------------------------

namespace Redeploy

open Json
  (optional asText asTextTable asInt32 asArray)

def LabelSelector.ofJson :
    Json → Except Json.Fault LabelSelector :=
  Json.fold ({} : LabelSelector) fun selector key value => do
    match key with
    | "matchLabels" =>
        return { selector with
          matchLabels := ← optional asTextTable value }
    | _ => return selector

def PodTemplate.ofJson :
    Json → Except Json.Fault PodTemplate :=
  Json.fold ({} : PodTemplate) fun template key value => do
    match key with
    | "metadata" =>
        return { template with
          metadata := ← optional Metadata.ofJson value }
    | _ => return template

def JobSpec.ofJson : Json → Except Json.Fault JobSpec :=
  Json.fold ({} : JobSpec) fun spec key value => do
    match key with
    | "completions" =>
        return { spec with
          completions := ← optional asInt32 value }
    | "parallelism" =>
        return { spec with
          parallelism := ← optional asInt32 value }
    | "backoffLimit" =>
        return { spec with
          backoffLimit := ← optional asInt32 value }
    | "selector" =>
        return { spec with
          selector := ← optional LabelSelector.ofJson value }
    | "template" =>
        let template ← optional PodTemplate.ofJson value
        return { spec with template := template.getD {} }
    | _ => return spec

def JobStatus.ofJson : Json → Except Json.Fault JobStatus :=
  Json.fold ({} : JobStatus) fun status key value => do
    match key with
    | "succeeded" =>
        return { status with
          succeeded := ← optional asInt32 value }
    | "active" =>
        return { status with
          active := ← optional asInt32 value }
    | "conditions" =>
        return { status with
          conditions :=
            ← optional (asArray Condition.ofJson) value }
    | _ => return status

def Job.ofJson : Json → Except Json.Fault Job :=
  Json.fold ({} : Job) fun job key value => do
    match key with
    | "apiVersion" =>
        value.constant Job.apiVersion
        return job
    | "kind" =>
        value.constant Job.kind
        return job
    | "metadata" =>
        let metadata ← optional Metadata.ofJson value
        return { job with metadata := metadata.getD {} }
    | "spec" =>
        return { job with
          spec := ← optional JobSpec.ofJson value }
    | "status" =>
        return { job with
          status := ← optional JobStatus.ofJson value }
    | _ => return job

def LabelSelector.toJson
    (selector : LabelSelector) : Json :=
  .ofMembers
    ([("matchLabels",
        selector.matchLabels.map Labels.toJson)] ++
      selector.rest.listed)

def PodTemplate.toJson
    (template : PodTemplate) : Json :=
  .ofMembers
    ([("metadata", template.metadata.map Metadata.toJson)] ++
      template.rest.listed)

def JobSpec.toJson
    (spec : JobSpec) : Json :=
  .ofMembers
    ([("backoffLimit", spec.backoffLimit.map .ofInt),
      ("completions", spec.completions.map .ofInt),
      ("parallelism", spec.parallelism.map .ofInt),
      ("selector", spec.selector.map LabelSelector.toJson),
      ("template", some spec.template.toJson)] ++
      spec.rest.listed)

def JobStatus.toJson
    (status : JobStatus) : Json :=
  .ofMembers
    ([("active", status.active.map .ofInt),
      ("conditions", status.conditions.map fun conditions =>
        .array (conditions.map Condition.toJson)),
      ("succeeded", status.succeeded.map .ofInt)] ++
      status.rest.listed)

def Job.toJson
    (job : Job) : Json :=
  .ofMembers
    [("apiVersion", some (.ofText Job.apiVersion)),
     ("kind", some (.ofText Job.kind)),
     ("metadata", some job.metadata.toJson),
     ("spec", job.spec.map JobSpec.toJson),
     ("status", job.status.map JobStatus.toJson)]

end Redeploy

------------------------------------------------------------
-- Pods and Nodes
------------------------------------------------------------

namespace Redeploy

open Json (optional asText asTextTable asArray)

def PodSpec.ofJson : Json → Except Json.Fault PodSpec :=
  Json.fold ({} : PodSpec) fun spec key value => do
    match key with
    | "nodeSelector" =>
        return { spec with
          nodeSelector := ← optional asTextTable value }
    | "nodeName" =>
        return { spec with
          nodeName := ← optional asText value }
    | _ => return spec

def PodStatus.ofJson : Json → Except Json.Fault PodStatus :=
  Json.fold ({} : PodStatus) fun status key value => do
    match key with
    | "phase" =>
        return { status with
          phase := ← optional asText value }
    | "conditions" =>
        return { status with
          conditions :=
            ← optional (asArray Condition.ofJson) value }
    | _ => return status

def Pod.ofJson : Json → Except Json.Fault Pod :=
  Json.fold ({} : Pod) fun pod key value => do
    match key with
    | "apiVersion" =>
        value.constant Pod.apiVersion
        return pod
    | "kind" =>
        value.constant Pod.kind
        return pod
    | "metadata" =>
        let metadata ← optional Metadata.ofJson value
        return { pod with metadata := metadata.getD {} }
    | "spec" =>
        return { pod with
          spec := ← optional PodSpec.ofJson value }
    | "status" =>
        return { pod with
          status := ← optional PodStatus.ofJson value }
    | _ => return pod

/- Check the status of a node. -/
def Node.checkStatus : Json → Except Json.Fault Unit :=
  Json.fold () fun _ key value => do
    match key with
    | "phase" =>
        let _ ← optional asText value
    | "conditions" =>
        let _ ← optional (asArray Condition.ofJson) value
    | _ => return

def Node.ofJson : Json → Except Json.Fault Node :=
  Json.fold ({} : Node) fun node key value => do
    match key with
    | "apiVersion" =>
        value.constant Node.apiVersion
        return node
    | "kind" =>
        value.constant Node.kind
        return node
    | "metadata" =>
        let metadata ← optional Metadata.ofJson value
        return { node with metadata := metadata.getD {} }
    | "spec" =>
        let _ ← optional Json.anyObject value
        return node
    | "status" =>
        let _ ← optional Node.checkStatus value
        return node
    | _ => return node

end Redeploy
