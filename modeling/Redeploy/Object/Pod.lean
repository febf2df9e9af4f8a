import Redeploy.Object.Condition
import Redeploy.Object.Metadata

/-
  Pods and the nodes they run on.

  Key definitions include:
    * `Pod`
    * `Pod.bound`
    * `Pod.isReady`
    * `PodSpec`
    * `Node`
-/

------------------------------------------------------------
-- Pods
------------------------------------------------------------

namespace Redeploy

structure PodSpec where
  nodeSelector : Option Labels := none
  nodeName : Option String := none
  /- Containers, volumes and all else that runs the pod. -/
  rest : Json.Members := .empty
deriving DecidableEq, Inhabited

structure PodStatus where
  phase : Option String := none
  conditions : Option (List Condition) := none
  /- Addresses, times and the states of containers. -/
  rest : Json.Members := .empty
deriving DecidableEq, Inhabited

/- A pod has no members besides these. -/
structure Pod where
  metadata : Metadata := {}
  spec : Option PodSpec := none
  status : Option PodStatus := none
deriving DecidableEq, Inhabited

namespace Pod

def kind : String := "Pod"

def apiVersion : String := "v1"

def key
    (pod : Pod) : ObjectKey :=
  pod.metadata.key

/- The node that a pod is bound to, empty if to none. -/
def nodeName
    (pod : Pod) : String :=
  (pod.spec.bind (·.nodeName)).getD ""

/- The phase of a pod's life. -/
def phase
    (pod : Pod) : String :=
  (pod.status.bind (·.phase)).getD "Unknown"

/- A pod with labels, bound to a node. -/
def bound
    (key : ObjectKey)
    (node : String)
    (labels : Labels) : Pod where
  metadata :=
    { name := some key.name
      ns := some key.ns
      labels := some labels }
  spec := some { nodeName := some node }

/- Whether the first condition on readiness is met. -/
def isReady
    (pod : Pod) : Bool :=
  match (pod.status.bind (·.conditions)).bind
      (·.find? (·.type == "Ready")) with
  | some condition => condition.isMet
  | none => false

end Pod

end Redeploy

------------------------------------------------------------
-- Nodes
------------------------------------------------------------

namespace Redeploy

structure Node where
  metadata : Metadata := {}
  /- The spec and the status. -/
  rest : Json.Members := .empty
deriving DecidableEq, Inhabited

namespace Node

def kind : String := "Node"

def apiVersion : String := "v1"

def name
    (node : Node) : String :=
  node.metadata.nameText

/- A node with a name and labels. -/
def labelled
    (name : String)
    (labels : Labels) : Node where
  metadata := { name := some name, labels := some labels }

end Node

end Redeploy
