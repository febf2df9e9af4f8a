import Redeploy.Failure
import Redeploy.Json.Decode
import Redeploy.Json.Reader
import Redeploy.Json.Writer
import Redeploy.Object.Pod

/-
  The record of who created a pod, an annotation in JSON.

  Key definitions include:
    * `OwnerReference`
    * `CreatedBy`
    * `CreatedBy.render`
    * `CreatedBy.parse`
    * `Pod.createdBy`
    * `OwnerReference.ofRecordText`

  Reading the record is strict about its own members, each
  of which occurs at most once, and about the reference,
  which is an object.  Within the reference a later member
  overrides an earlier one.  Members of other names are
  ignored.
-/

------------------------------------------------------------
-- Records
------------------------------------------------------------

namespace Redeploy

/- What points at the owner of an object. -/
structure OwnerReference where
  apiVersion : Option String := none
  fieldPath : Option String := none
  kind : Option String := none
  name : Option String := none
  ns : Option String := none
  resourceVersion : Option String := none
  uid : Option String := none
deriving DecidableEq, Inhabited

/- The content of the annotation. -/
structure CreatedBy where
  kind : Option String := none
  apiVersion : Option String := none
  reference : OwnerReference := {}
deriving DecidableEq, Inhabited

namespace CreatedBy

/- The key of the annotation. -/
def annotationKey : String := "kubernetes.io/created-by"

/- The record for an owner of some kind. -/
def owner
    (kind ns name uid : String) : CreatedBy where
  kind := some "SerializedReference"
  apiVersion := some "v1"
  reference :=
    { kind := some kind
      ns := some ns
      name := some name
      uid := some uid }

end CreatedBy

end Redeploy

------------------------------------------------------------
-- Writing
------------------------------------------------------------

namespace Redeploy

def OwnerReference.toJson
    (r : OwnerReference) : Json :=
  .ofMembers
    [("apiVersion", r.apiVersion.map .ofText),
     ("fieldPath", r.fieldPath.map .ofText),
     ("kind", r.kind.map .ofText),
     ("name", r.name.map .ofText),
     ("namespace", r.ns.map .ofText),
     ("resourceVersion", r.resourceVersion.map .ofText),
     ("uid", r.uid.map .ofText)]

namespace CreatedBy

def toJson
    (c : CreatedBy) : Json :=
  .ofMembers
    [("kind", c.kind.map .ofText),
     ("apiVersion", c.apiVersion.map .ofText),
     ("reference", some c.reference.toJson)]

/- The annotation's value. -/
def render
    (c : CreatedBy) : String :=
  c.toJson.render

end CreatedBy

end Redeploy

------------------------------------------------------------
-- Reading
------------------------------------------------------------

namespace Redeploy

open Json (Fault optional asText)

namespace OwnerReference

/- Enter one member into a reference. -/
def accept
    (r : OwnerReference)
    (key : String)
    (value : Json) : Except Fault OwnerReference := do
  match key with
  | "apiVersion" =>
      return { r with apiVersion := ← optional asText value }
  | "fieldPath" =>
      return { r with fieldPath := ← optional asText value }
  | "kind" =>
      return { r with kind := ← optional asText value }
  | "name" =>
      return { r with name := ← optional asText value }
  | "namespace" =>
      return { r with ns := ← optional asText value }
  | "resourceVersion" =>
      return { r with
        resourceVersion := ← optional asText value }
  | "uid" =>
      return { r with uid := ← optional asText value }
  | _ => return r

def ofJson : Json → Except Fault OwnerReference :=
  Json.fold {} accept

end OwnerReference

namespace CreatedBy

/- An optional text that may also be left out. -/
def field
    (key : String)
    (members : List (String × Json)) :
    Except Fault (Option String) := do
  match ← Json.only? key members with
  | some value => optional asText value
  | none => return none

/- A record is an object, or its three values in a row. -/
def ofJson : Json → Except Fault CreatedBy
  | .object members => do
      let members ← Json.named members
      let reference ← Json.only "reference" members
      return {
        kind := ← field "kind" members
        apiVersion := ← field "apiVersion" members
        reference := ← OwnerReference.ofJson reference }
  | .array [kind, apiVersion, reference] => do
      return {
        kind := ← optional asText kind
        apiVersion := ← optional asText apiVersion
        reference := ← OwnerReference.ofJson reference }
  | _ => throw (.unexpectedType "a reference record")

/- The record that an annotation's value holds. -/
def parse
    (text : String) : Except Fault CreatedBy :=
  match Json.parse? text with
  | some value => ofJson value
  | none => .error .malformed

end CreatedBy

/- A pod that carries a record of its creator. -/
def Pod.createdBy
    (record : CreatedBy)
    (pod : Pod) : Pod :=
  { pod with
    metadata :=
      pod.metadata.annotate CreatedBy.annotationKey
        record.render }

/- The owner that an annotation's value names. -/
def OwnerReference.ofRecordText
    (text : String) : Except Failure OwnerReference :=
  match CreatedBy.parse text with
  | .ok record => .ok record.reference
  | .error fault =>
      .error (.badParameter
        ("failed to parse " ++ CreatedBy.annotationKey ++
          " annotation: " ++ fault.text))

end Redeploy
