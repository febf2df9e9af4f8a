import Redeploy.Object.Job
import Redeploy.Object.Pod

/-
  What one remote object is known by.

  Key definitions include:
    * `Identity`
    * `Job.identity`
-/

------------------------------------------------------------
-- Identities
------------------------------------------------------------

namespace Redeploy

/- A type, a key, and what the server assigned. -/
structure Identity where
  kind : String
  apiVersion : String
  ns : String
  name : String
  uid : Option String := none
  resourceVersion : Option String := none
  selfLink : Option String := none
deriving DecidableEq, Inhabited

namespace Identity

/- The identity of an object of a type. -/
def ofMetadata
    (kind apiVersion : String)
    (m : Metadata) : Identity where
  kind := kind
  apiVersion := apiVersion
  ns := m.nsText
  name := m.nameText
  uid := m.uid
  resourceVersion := m.resourceVersion
  selfLink := m.selfLink

def key
    (i : Identity) : ObjectKey where
  ns := i.ns
  name := i.name

/- How messages call the object. -/
def path
    (i : Identity) : String :=
  i.key.path

end Identity

def Job.identity
    (job : Job) : Identity :=
  .ofMetadata Job.kind Job.apiVersion job.metadata

def Pod.identity
    (pod : Pod) : Identity :=
  .ofMetadata Pod.kind Pod.apiVersion pod.metadata

def Node.identity
    (node : Node) : Identity :=
  .ofMetadata Node.kind Node.apiVersion node.metadata

end Redeploy
