import Redeploy.Workload

/-
  Control of one batch job.

  Key definitions include:
    * `JobController`
    * `JobController.ofJob`
    * `JobController.upsert`
    * `JobController.delete`
    * `JobController.status`
    * `JobController.awaitCompletion`

  The pods of a job cannot be changed while it runs, so an
  update deletes the job and creates it anew.
-/

------------------------------------------------------------
-- Controllers
------------------------------------------------------------

namespace Redeploy

/- A job that is wanted, and the way to its cluster. -/
structure JobController (σ : Type) where
  job : Job
  client : Client σ
  settings : Settings

namespace JobController

variable {σ : Type}

/- The namespace of a job that names none. -/
def defaultNamespace : String := "default"

/- A job in the default namespace, if it names none. -/
def inNamespace
    (job : Job) : Job :=
  if job.metadata.nsText = "" then
    { job with
      metadata :=
        { job.metadata with ns := some defaultNamespace } }
  else job

/- The controller of a job that has a name. -/
def ofJob
    (job : Job)
    (client : Option (Client σ))
    (settings : Settings) :
    Except Failure (JobController σ) :=
  match client with
  | none => .error (.badParameter "missing parameter client")
  | some client =>
      if job.metadata.nameText = "" then
        .error (.badParameter "missing parameter job name")
      else
        .ok { job := inNamespace job, client, settings }

def identity
    (c : JobController σ) : Identity :=
  c.job.identity

def key
    (c : JobController σ) : ObjectKey :=
  c.identity.key

/- Where the controller makes its notices. -/
def span
    (c : JobController σ) : Span where
  name := "job_control"
  fields :=
    [("job", c.identity.path),
     ("kind", c.identity.kind),
     ("api_version", c.identity.apiVersion)]

end JobController

end Redeploy

------------------------------------------------------------
-- Requests
------------------------------------------------------------

namespace Redeploy

/- Why a job is not done. -/
def Job.incomplete
    (job : Job) : Failure :=
  .compareFailed
    ("job " ++ job.metadata.path ++
      " not yet complete (succeeded: " ++
      toString job.succeeded ++ ", active: " ++
      toString job.active ++ ")")

/- Whether a pod was created by this very job. -/
def Job.isOwner
    (job : Job)
    (reference : OwnerReference) : Bool :=
  job.metadata.uid.isSome &&
    reference.kind == some Job.kind &&
    reference.uid == job.metadata.uid

namespace JobController

variable {σ : Type}

/- The job that exists. -/
def find
    (c : JobController σ) : Act Failure σ Job :=
  Client.request (c.client.getJob c.key)

/- Succeeds once the job that exists is complete. -/
def status
    (c : JobController σ) : Act Failure σ Unit := do
  let job ← c.find
  if job.isComplete then pure () else .fail job.incomplete

/- Create the job that is wanted. -/
def create
    (c : JobController σ) : Act Failure σ Unit :=
  ((c.client.createJob c.job.forCreate).mapError
    (Failure.ofClient ("create job " ++ c.identity.path))) *>
    pure ()

/- The job as a workload. -/
def workload
    (c : JobController σ) : Workload σ Job where
  identity := c.identity
  span := some c.span
  client := c.client
  find := c.find
  podsOf job :=
    NodePods.collect c.client c.identity.ns job.matchLabels
      (some c.span) job.isOwner
  remove propagation :=
    Client.request (c.client.deleteJob c.key propagation)
  create := c.create
  status := c.status

end JobController

end Redeploy

------------------------------------------------------------
-- Operations
------------------------------------------------------------

namespace Redeploy

namespace JobController

variable {σ : Type}

/- Create the job in place of the one that exists. -/
def upsert
    (c : JobController σ) : Act Failure σ Unit :=
  .within (some c.span)
    (c.workload.upsert c.settings.createBackoff)

/- Delete the job and wait until it is gone. -/
def delete
    (c : JobController σ)
    (cascade : Bool) : Act Failure σ Unit :=
  .within (some c.span)
    (c.workload.delete cascade c.settings.deleteWait)

/- Check the status by a policy until the job completes. -/
def poll
    (c : JobController σ)
    (policy : RetryPolicy) : Act Failure σ Unit :=
  policy.poll (some c.span) c.status

/- Check the status until the job completes. -/
def awaitCompletion
    (c : JobController σ) : Act Failure σ Unit :=
  c.poll c.settings.status

end JobController

end Redeploy
