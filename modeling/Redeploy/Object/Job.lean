import Redeploy.Object.Condition
import Redeploy.Object.Metadata

/-
  Batch jobs.

  Key definitions include:
    * `Job`
    * `Job.isComplete`
    * `Job.forCreate`
    * `Job.matchLabels`

  A job that runs cannot be changed; to be created again it
  has to shed what the server gave it.
-/

------------------------------------------------------------
-- Jobs
------------------------------------------------------------

namespace Redeploy

/- The pods that a job counts as its own. -/
structure LabelSelector where
  matchLabels : Option Labels := none
  /- The conditions on labels that are no equations. -/
  rest : Json.Members := .empty
deriving DecidableEq, Inhabited

/- What the pods of a job are made from. -/
structure PodTemplate where
  metadata : Option Metadata := none
  /- The spec of the pods. -/
  rest : Json.Members := .empty
deriving DecidableEq, Inhabited

structure JobSpec where
  completions : Option Int := none
  parallelism : Option Int := none
  backoffLimit : Option Int := none
  selector : Option LabelSelector := none
  template : PodTemplate := {}
  /- Deadlines, indexing, suspension and the policies on
     failures and success. -/
  rest : Json.Members := .empty
deriving DecidableEq, Inhabited

structure JobStatus where
  succeeded : Option Int := none
  active : Option Int := none
  conditions : Option (List Condition) := none
  /- Times, indices and the other counts. -/
  rest : Json.Members := .empty
deriving DecidableEq, Inhabited

/- A job has no members besides these. -/
structure Job where
  metadata : Metadata := {}
  spec : Option JobSpec := none
  status : Option JobStatus := none
deriving DecidableEq, Inhabited

namespace Job

def kind : String := "Job"

def apiVersion : String := "batch/v1"

def key
    (job : Job) : ObjectKey :=
  job.metadata.key

/- The labels that select the pods of a job. -/
def matchLabels
    (job : Job) : Option Labels :=
  job.spec.bind fun spec =>
    spec.selector.bind (·.matchLabels)

/- A job with a name and a spec that says nothing. -/
def bare
    (key : ObjectKey) : Job where
  metadata := { name := some key.name, ns := some key.ns }
  spec := some {}

end Job

end Redeploy

------------------------------------------------------------
-- Completion
------------------------------------------------------------

namespace Redeploy

namespace Job

/- The number of pods that succeeded. -/
def succeeded
    (job : Job) : Int :=
  (job.status.bind (·.succeeded)).getD 0

/- The number of pods that are running. -/
def active
    (job : Job) : Int :=
  (job.status.bind (·.active)).getD 0

/-
  Without a number of completions, the first success ends a
  job once nothing runs any more.
-/
def isComplete
    (job : Job) : Bool :=
  match job.spec.bind (·.completions) with
  | none => 0 < job.succeeded && job.active == 0
  | some completions => completions ≤ job.succeeded

end Job

end Redeploy

------------------------------------------------------------
-- Creation
------------------------------------------------------------

namespace Redeploy

def LabelSelector.withoutController
    (selector : LabelSelector) : LabelSelector :=
  { selector with
    matchLabels :=
      selector.matchLabels.map Labels.withoutController }

/- Drop the labels from the metadata of a template. -/
def Metadata.withoutController
    (m : Metadata) : Metadata :=
  { m with labels := m.labels.map Labels.withoutController }

def PodTemplate.withoutController
    (template : PodTemplate) : PodTemplate :=
  { template with
    metadata :=
      template.metadata.map Metadata.withoutController }

def JobSpec.withoutController
    (spec : JobSpec) : JobSpec :=
  { spec with
    selector :=
      spec.selector.map LabelSelector.withoutController
    template := spec.template.withoutController }

/- The job as the server accepts it for a new object. -/
def Job.forCreate
    (job : Job) : Job :=
  { job with
    metadata := job.metadata.withoutIdentity
    spec := job.spec.map JobSpec.withoutController }

end Redeploy
