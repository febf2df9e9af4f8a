import Redeploy.Client
import Redeploy.Selector

/-
  A cluster in memory.

  Key definitions include:
    * `Cluster`
    * `Cluster.storeJob`
    * `Cluster.queueFailure`, `Cluster.queuePass`
    * `Cluster.answer`
    * `Cluster.getJob`, `Cluster.createJob`
    * `Cluster.deleteJob`, `Cluster.deletePod`
    * `Cluster.client`

  Every request is recorded.  The outcome of a request can
  be scripted, in the order of the requests of its kind.  A
  deleted job may stay visible for a number of reads, the
  deletion lag: it is then terminating, and each attempt to
  get or to create it is one read.
-/

------------------------------------------------------------
-- State
------------------------------------------------------------

namespace Redeploy

structure Cluster where
  jobs : Table ObjectKey Job := .empty
  pods : Table ObjectKey Pod := .empty
  nodes : Table String Node := .empty
  /- Deleted jobs and the reads they have left. -/
  terminating : Table ObjectKey Nat := .empty
  deletionLag : Nat := 0
  /- The outcomes to come, `none` for an undisturbed one. -/
  script : Operation → List (Option Status) := fun _ => []
  calls : List Call := []
  /- The jobs that were submitted, as they were. -/
  created : List Job := []
  /- The last resource version that was assigned. -/
  version : Nat := 0
  /- The uid of a job that is stored without one, by the
     version that it is stored as. -/
  uidOf : Nat → String := fun version =>
    "generated-" ++ toString version

end Redeploy

------------------------------------------------------------
-- Contents
------------------------------------------------------------

namespace Redeploy

namespace Cluster

/- A job as stored under a version; it keeps a uid that it
   has. -/
def versioned
    (uid : String)
    (version : Nat)
    (job : Job) : Job :=
  { job with
    metadata :=
      { job.metadata with
        uid := job.metadata.uid <|> some uid
        resourceVersion := some (toString version) } }

/- Store a job under its key, as the next version. -/
def storeJob
    (job : Job)
    (c : Cluster) : Job × Cluster :=
  let stored :=
    versioned (c.uidOf (c.version + 1)) (c.version + 1) job
  (stored,
    { c with
      version := c.version + 1
      jobs := c.jobs.insert job.key stored })

def storePod
    (pod : Pod)
    (c : Cluster) : Cluster :=
  { c with pods := c.pods.insert pod.key pod }

def storeNode
    (node : Node)
    (c : Cluster) : Cluster :=
  { c with nodes := c.nodes.insert node.name node }

/- Set for how many reads a deleted job stays visible. -/
def withDeletionLag
    (reads : Nat)
    (c : Cluster) : Cluster :=
  { c with deletionLag := reads }

/- The names of the pods whose deletion was asked for. -/
def podDeletions
    (c : Cluster) : List String :=
  c.calls.filterMap fun call =>
    match call with
    | .deletePod key => some key.name
    | _ => none

end Cluster

end Redeploy

------------------------------------------------------------
-- Scripted Outcomes
------------------------------------------------------------

namespace Redeploy

namespace Cluster

/- Set the outcomes to come of one operation. -/
def withScript
    (operation : Operation)
    (outcomes : List (Option Status))
    (c : Cluster) : Cluster :=
  { c with
    script := fun o =>
      if o = operation then outcomes else c.script o }

/- Let an operation fail, after the outcomes to come. -/
def queueFailure
    (operation : Operation)
    (status : Status)
    (c : Cluster) : Cluster :=
  c.withScript operation
    (c.script operation ++ [some status])

/- Let an operation through, after the outcomes to come. -/
def queuePass
    (operation : Operation)
    (c : Cluster) : Cluster :=
  c.withScript operation (c.script operation ++ [none])

/-
  Answer a call: record it, then fail as scripted or serve
  it.
-/
def answer
    {α : Type}
    (call : Call)
    (serve : Cluster → Except ClientError α × Cluster)
    (c : Cluster) : Except ClientError α × Cluster :=
  let c := { c with calls := c.calls ++ [call] }
  match c.script call.operation with
  | [] => serve c
  | none :: rest => serve (c.withScript call.operation rest)
  | some status :: rest =>
      (.error (.status status),
        c.withScript call.operation rest)

end Cluster

end Redeploy

------------------------------------------------------------
-- Jobs
------------------------------------------------------------

namespace Redeploy

namespace Cluster

/- One read of a key: a terminating job has one read less,
   or is gone if it had none left. -/
def read
    (key : ObjectKey)
    (c : Cluster) : Cluster :=
  match c.terminating.get? key with
  | none => c
  | some 0 =>
      { c with
        terminating := c.terminating.erase key
        jobs := c.jobs.erase key }
  | some (left + 1) =>
      { c with
        terminating := c.terminating.insert key left }

def getJob
    (key : ObjectKey) :
    Cluster → Except ClientError Job × Cluster :=
  answer (.getJob key) fun c =>
    let c := c.read key
    match c.jobs.get? key with
    | some job => (.ok job, c)
    | none =>
        (.error (.status (.notFound Job.kind key.name)), c)

/- The answer to a job that claims to be known already. -/
def identityRejected : Status where
  code := 400
  reason := "BadRequest"
  message :=
    "resourceVersion and uid should not be set on objects " ++
      "to be created"

def createJob
    (job : Job) :
    Cluster → Except ClientError Job × Cluster :=
  answer (.createJob job.key) fun c =>
    let c := { c with created := c.created ++ [job] }
    let c := c.read job.key
    if c.jobs.contains job.key then
      (.error (.status
        (.alreadyExists Job.kind job.key.name)), c)
    else if job.metadata.uid.isSome ∨
        job.metadata.resourceVersion.isSome then
      (.error (.status identityRejected), c)
    else
      let (stored, c) := c.storeJob job
      (.ok stored, c)

def deleteJob
    (key : ObjectKey)
    (propagation : Option Propagation) :
    Cluster → Except ClientError Unit × Cluster :=
  answer (.deleteJob key propagation) fun c =>
    if c.terminating.contains key ∨
        c.jobs.contains key = false then
      (.error (.status (.notFound Job.kind key.name)), c)
    else if c.deletionLag = 0 then
      (.ok (), { c with jobs := c.jobs.erase key })
    else
      (.ok (),
        { c with
          terminating :=
            c.terminating.insert key c.deletionLag })

end Cluster

end Redeploy

------------------------------------------------------------
-- Pods and Nodes
------------------------------------------------------------

namespace Redeploy

namespace Cluster

def listPods
    (ns selector : String) :
    Cluster → Except ClientError (List Pod) × Cluster :=
  answer (.listPods ns selector) fun c =>
    let selected :=
      c.pods.toList.filter fun e =>
        e.1.ns == ns &&
          Selector.selects selector e.2.metadata.labels
    (.ok (selected.map (·.2)), c)

def deletePod
    (key : ObjectKey) :
    Cluster → Except ClientError Unit × Cluster :=
  answer (.deletePod key) fun c =>
    if c.pods.contains key then
      (.ok (), { c with pods := c.pods.erase key })
    else
      (.error (.status (.notFound Pod.kind key.name)), c)

def listNodes
    (selector : String) :
    Cluster → Except ClientError (List Node) × Cluster :=
  answer (.listNodes selector) fun c =>
    (.ok (c.nodes.values.filter fun node =>
      Selector.selects selector node.metadata.labels), c)

/- The cluster as a client sees it. -/
def client : Client Cluster where
  getJob key := .ofStep (getJob key)
  createJob job := .ofStep (createJob job)
  deleteJob key propagation :=
    .ofStep (deleteJob key propagation)
  listPods ns selector := .ofStep (listPods ns selector)
  deletePod key := .ofStep (deletePod key)
  listNodes selector := .ofStep (listNodes selector)

end Cluster

end Redeploy
