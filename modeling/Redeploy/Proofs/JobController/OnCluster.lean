import Redeploy.Proofs.Cluster.Departure
import Redeploy.Proofs.NodePods.Owned
import Redeploy.Proofs.Object.Renewal

/-
  What a controller does to a cluster in memory, step by
  step.

  Key definitions include:
    * `Job.target`
    * `JobController.onCluster`
    * `JobController.submission`

  Main results:
    * `JobController.ofJob_eq_onCluster`
    * `JobController.leads_find`, `JobController.leads_create`
    * `JobController.leads_podsOf`
    * `JobController.leads_remove`
    * `NodePods.Sweeps.unhindered`

  Each capability of the controller is one request.  Where no
  failure is scripted, a request is answered by what is
  stored.
-/

------------------------------------------------------------
-- Controllers of a Cluster
------------------------------------------------------------

namespace Redeploy

/- The place that a job is meant for. -/
def Job.target
    (job : Job) : ObjectKey where
  ns :=
    if job.metadata.nsText = "" then "default"
    else job.metadata.nsText
  name := job.metadata.nameText

namespace JobController

/- The controller of a job in a cluster in memory. -/
def onCluster
    (job : Job)
    (settings : Settings) : JobController Cluster where
  job := inNamespace job
  client := Cluster.client
  settings := settings

/- What is submitted for a job that is wanted. -/
def submission
    (job : Job) : Job :=
  (inNamespace job).forCreate

theorem ofJob_eq_onCluster
    {job : Job}
    (hName : job.metadata.nameText ≠ "")
    (settings : Settings) :
    ofJob job (some Cluster.client) settings =
      .ok (onCluster job settings) := by
  unfold ofJob
  exact if_neg hName

theorem eq_onCluster
    {job : Job}
    {settings : Settings}
    {controller : JobController Cluster}
    (h :
      ofJob job (some Cluster.client) settings =
        .ok controller) :
    controller = onCluster job settings := by
  unfold ofJob at h
  dsimp only at h
  split at h
  · cases h
  · cases h
    rfl

theorem inNamespace_eq
    (job : Job) :
    inNamespace job =
      { job with
        metadata :=
          { job.metadata with ns := some job.target.ns } } := by
  unfold inNamespace Job.target
  by_cases hEmpty : job.metadata.nsText = ""
  · rw [if_pos hEmpty, if_pos hEmpty]
    rfl
  · rw [if_neg hEmpty, if_neg hEmpty]
    have hNamed :
        job.metadata.ns = some job.metadata.nsText := by
      cases hNs : job.metadata.ns with
      | none =>
          exact absurd (by rw [Metadata.nsText, hNs]; rfl)
            hEmpty
      | some ns => rw [Metadata.nsText, hNs]; rfl
    rw [← hNamed]

theorem identity_onCluster_key
    (job : Job)
    (settings : Settings) :
    (onCluster job settings).identity.key = job.target := by
  change (inNamespace job).identity.key = job.target
  rw [inNamespace_eq]
  rfl

theorem workload_onCluster_ns
    (job : Job)
    (settings : Settings) :
    (onCluster job settings).workload.identity.ns =
      job.target.ns :=
  congrArg ObjectKey.ns (identity_onCluster_key job settings)

theorem submission_key
    (job : Job) :
    (submission job).key = job.target := by
  rw [submission, inNamespace_eq]
  rfl

/- To look at what is submitted is to read its place. -/
theorem submitted_eq
    (job : Job)
    (c : Cluster) :
    c.submitted (submission job) =
      { c.heard (.createJob job.target) with
        created := c.created ++ [submission job] }.read
          job.target := by
  rw [Cluster.submitted, submission_key]

/- What is submitted is stored as the next version. -/
theorem storeJob_submission_jobs
    {job : Job}
    {c c' : Cluster}
    (hAgrees : c.AgreesBeside job.target c') :
    (c'.storeJob (submission job)).2.jobs =
      c'.jobs.insert job.target
        (Cluster.versioned (c.uidOf (c.version + 1))
          (c.version + 1) (submission job)) := by
  rw [← hAgrees.uidOf, ← hAgrees.version, ← submission_key]
  rfl

/- What is stored after a submission is the wanted job
   renewed. -/
theorem renews_submission
    (job : Job)
    (uid : String)
    (version : Nat) :
    job.Renews
      (Cluster.versioned uid version (submission job))
      job.target.ns uid (toString version) := by
  rw [submission, inNamespace_eq]
  exact job.renews_versioned _ _ _

end JobController

end Redeploy

------------------------------------------------------------
-- The Client
------------------------------------------------------------

namespace Redeploy

namespace Cluster

variable {s s' : Situation Cluster}

theorem leads_getJob
    {key : ObjectKey}
    {answer : Except ClientError Job}
    (h : (client.getJob key).Leads s answer s') :
    getJob key s.system = (answer, s'.system) ∧
      s'.cancelledAt = s.cancelledAt := by
  change (Act.ofStep (getJob key)).Leads s answer s' at h
  exact h.ofStep

theorem leads_createJob
    {job : Job}
    {answer : Except ClientError Job}
    (h : (client.createJob job).Leads s answer s') :
    createJob job s.system = (answer, s'.system) ∧
      s'.cancelledAt = s.cancelledAt := by
  change (Act.ofStep (createJob job)).Leads s answer s' at h
  exact h.ofStep

theorem leads_deleteJob
    {key : ObjectKey}
    {propagation : Option Propagation}
    {answer : Except ClientError Unit}
    (h : (client.deleteJob key propagation).Leads s
      answer s') :
    deleteJob key propagation s.system =
        (answer, s'.system) ∧
      s'.cancelledAt = s.cancelledAt := by
  change (Act.ofStep (deleteJob key propagation)).Leads s
    answer s' at h
  exact h.ofStep

theorem leads_listPods
    {ns selector : String}
    {answer : Except ClientError (List Pod)}
    (h : (client.listPods ns selector).Leads s answer s') :
    listPods ns selector s.system = (answer, s'.system) ∧
      s'.cancelledAt = s.cancelledAt := by
  change (Act.ofStep (listPods ns selector)).Leads s
    answer s' at h
  exact h.ofStep

theorem leads_deletePod
    {key : ObjectKey}
    {answer : Except ClientError Unit}
    (h : (client.deletePod key).Leads s answer s') :
    deletePod key s.system = (answer, s'.system) ∧
      s'.cancelledAt = s.cancelledAt := by
  change (Act.ofStep (deletePod key)).Leads s answer s' at h
  exact h.ofStep

end Cluster

end Redeploy

------------------------------------------------------------
-- Requests
------------------------------------------------------------

namespace Redeploy

namespace JobController

variable {job : Job}
variable {settings : Settings}
variable {s s' : Situation Cluster}

theorem leads_find
    {outcome : Except Failure Job}
    (h : (onCluster job settings).workload.find.Leads s
      outcome s') :
    ∃ answer,
      Cluster.getJob job.target s.system =
        (answer, s'.system) ∧
      s'.cancelledAt = s.cancelledAt ∧
      outcome = answer.mapError (Failure.ofClient "") := by
  rcases Client.leads_request h with ⟨answer, hGet, hOutcome⟩
  rcases Cluster.leads_getJob hGet with ⟨hStep, hCancelled⟩
  refine ⟨answer, ?_, hCancelled, hOutcome⟩
  rw [← identity_onCluster_key job settings]
  exact hStep

theorem leads_create
    {outcome : Except Failure Unit}
    (h : (onCluster job settings).workload.create.Leads s
      outcome s') :
    ∃ answer,
      Cluster.createJob (submission job) s.system =
        (answer, s'.system) ∧
      s'.cancelledAt = s.cancelledAt ∧
      outcome =
        (answer.mapError (Failure.ofClient
          ("create job " ++ job.target.path))).map
            fun _ => () := by
  rw [← identity_onCluster_key job settings]
  have hPure :
      ∀ (_ : Job) t outcome t',
        (pure () : Act Failure Cluster Unit).Leads t
          outcome t' →
        outcome = .ok () ∧ t' = t :=
    fun _ _ _ _ hDone => hDone.pure
  rcases Act.Leads.bind_of_pure hPure h with
    ⟨inner, hCreate, rfl⟩
  rcases hCreate.mapError with ⟨answer, hPost, rfl⟩
  rcases Cluster.leads_createJob hPost with
    ⟨hStep, hCancelled⟩
  exact ⟨answer, hStep, hCancelled, rfl⟩

theorem leads_podsOf
    {current : Job}
    {outcome : Except Failure NodePods}
    (h : ((onCluster job settings).workload.podsOf
      current).Leads s outcome s') :
    ∃ answer,
      Cluster.listPods job.target.ns current.podSelector
          s.system =
        (answer, s'.system) ∧
      s'.cancelledAt = s.cancelledAt ∧
      outcome =
        (answer.mapError (Failure.ofClient "")).map
          (NodePods.ofOwned current.isOwner) := by
  rw [← identity_onCluster_key job settings]
  rcases NodePods.leads_collect h with ⟨answer, hGet, rfl⟩
  rcases Cluster.leads_listPods hGet with
    ⟨hStep, hCancelled⟩
  exact ⟨answer, hStep, hCancelled, rfl⟩

/- The pods that are collected of a job are those that the
   cluster holds. -/
theorem podsOf_collected
    {current : Job}
    {pods : NodePods}
    (h : ((onCluster job settings).workload.podsOf
      current).Leads s (.ok pods) s') :
    pods = s.system.collected current job.target.ns := by
  rcases leads_podsOf h with ⟨answer, hStep, -, hOutcome⟩
  rcases Cluster.listPods_cases hStep with
    ⟨status, -, rfl, -⟩ | ⟨-, rfl, -⟩
  · cases hOutcome
  · cases hOutcome
    rfl

theorem leads_remove
    {propagation : Option Propagation}
    {outcome : Except Failure Unit}
    (h : ((onCluster job settings).workload.remove
      propagation).Leads s outcome s') :
    ∃ answer,
      Cluster.deleteJob job.target propagation s.system =
        (answer, s'.system) ∧
      s'.cancelledAt = s.cancelledAt ∧
      outcome = answer.mapError (Failure.ofClient "") := by
  rcases Client.leads_request h with
    ⟨answer, hDelete, hOutcome⟩
  rcases Cluster.leads_deleteJob hDelete with
    ⟨hStep, hCancelled⟩
  refine ⟨answer, ?_, hCancelled, hOutcome⟩
  rw [← identity_onCluster_key job settings]
  exact hStep

end JobController

end Redeploy

------------------------------------------------------------
-- Unhindered Requests
------------------------------------------------------------

namespace Redeploy

namespace JobController

variable {job : Job}
variable {settings : Settings}
variable {s s' : Situation Cluster}

theorem find_unhindered
    {outcome : Except Failure Job}
    (hFree : s.system.Unhindered)
    (h : (onCluster job settings).workload.find.Leads s
      outcome s') :
    s'.system =
        (s.system.heard (.getJob job.target)).read
          job.target ∧
      s'.cancelledAt = s.cancelledAt ∧
      ((∃ current,
        s'.system.jobs.get? job.target = some current ∧
          outcome = .ok current) ∨
      (s'.system.jobs.get? job.target = none ∧
        ∃ message, outcome = .error (.notFound message))) := by
  rcases leads_find h with
    ⟨answer, hStep, hCancelled, hOutcome⟩
  rcases Cluster.getJob_cases hStep with
    hRefused | ⟨-, hAfter, hAnswer⟩
  · exact absurd hFree hRefused.not_unhindered
  refine ⟨hAfter, hCancelled, ?_⟩
  unfold Cluster.found at hAnswer
  cases hGet : s'.system.jobs.get? job.target with
  | some current =>
      rw [hGet] at hAnswer
      rw [hAnswer] at hOutcome
      exact .inl ⟨current, rfl, hOutcome⟩
  | none =>
      rw [hGet] at hAnswer
      rw [hAnswer] at hOutcome
      exact .inr ⟨rfl, _, hOutcome⟩

theorem create_unhindered
    {outcome : Except Failure Unit}
    (hFree : s.system.Unhindered)
    (h : (onCluster job settings).workload.create.Leads s
      outcome s') :
    s'.cancelledAt = s.cancelledAt ∧
      (((s.system.submitted (submission job)).jobs.contains
          job.target = true ∧
        s'.system = s.system.submitted (submission job) ∧
        ∃ message,
          outcome = .error (.alreadyExists message)) ∨
      ((s.system.submitted (submission job)).jobs.contains
          job.target = false ∧
        s'.system =
          ((s.system.submitted (submission job)).storeJob
            (submission job)).2 ∧
        outcome = .ok ())) := by
  rcases leads_create h with
    ⟨answer, hStep, hCancelled, hOutcome⟩
  refine ⟨hCancelled, ?_⟩
  have hCases := Cluster.createJob_cases hStep
  rw [submission_key] at hCases
  rcases hCases with
    hRefused | ⟨-, hStored, rfl, hAfter⟩ |
      ⟨-, -, hKnown, -⟩ | ⟨-, hAbsent, rfl, hAfter⟩
  · exact absurd hFree hRefused.not_unhindered
  · exact .inl ⟨hStored, hAfter, _, hOutcome⟩
  · cases hKnown with
    | inl hUid => cases hUid
    | inr hVersion => cases hVersion
  · exact .inr ⟨hAbsent, hAfter, hOutcome⟩

theorem podsOf_unhindered
    {current : Job}
    {outcome : Except Failure NodePods}
    (hFree : s.system.Unhindered)
    (h : ((onCluster job settings).workload.podsOf
      current).Leads s outcome s') :
    s'.system =
        s.system.heard
          (.listPods job.target.ns current.podSelector) ∧
      s'.cancelledAt = s.cancelledAt ∧
      outcome =
        .ok (s.system.collected current job.target.ns) := by
  rcases leads_podsOf h with
    ⟨answer, hStep, hCancelled, hOutcome⟩
  rcases Cluster.listPods_cases hStep with
    hRefused | ⟨-, rfl, hAfter⟩
  · exact absurd hFree hRefused.not_unhindered
  · exact ⟨hAfter, hCancelled, hOutcome⟩

theorem remove_unhindered
    {propagation : Option Propagation}
    {outcome : Except Failure Unit}
    (hFree : s.system.Unhindered)
    (h : ((onCluster job settings).workload.remove
      propagation).Leads s outcome s') :
    s'.cancelledAt = s.cancelledAt ∧
      (((s.system.terminating.contains job.target = true ∨
          s.system.jobs.contains job.target = false) ∧
        ∃ message, outcome = .error (.notFound message)) ∨
      (s.system.terminating.get? job.target = none ∧
        s.system.jobs.contains job.target = true ∧
        s'.system =
          (s.system.heard
            (.deleteJob job.target propagation)).leaving
              job.target s.system.deletionLag ∧
        outcome = .ok ())) := by
  rcases leads_remove h with
    ⟨answer, hStep, hCancelled, hOutcome⟩
  refine ⟨hCancelled, ?_⟩
  rcases Cluster.deleteJob_cases hStep with
    hRefused | ⟨-, hGone, rfl, -⟩ |
      ⟨-, hStaying, hStored, rfl, hAfter⟩
  · exact absurd hFree hRefused.not_unhindered
  · exact .inl ⟨hGone, _, hOutcome⟩
  · exact .inr ⟨hStaying, hStored, hAfter, hOutcome⟩

/- A job that stays is found. -/
theorem find_staying
    {old : Job}
    {outcome : Except Failure Job}
    (hFree : s.system.Unhindered)
    (hStaying : s.system.terminating.get? job.target = none)
    (hOld : s.system.jobs.get? job.target = some old)
    (h : (onCluster job settings).workload.find.Leads s
      outcome s') :
    outcome = .ok old ∧
      s'.system = s.system.heard (.getJob job.target) ∧
      s'.cancelledAt = s.cancelledAt := by
  rcases find_unhindered hFree h with
    ⟨hAfter, hCancelled, hFound⟩
  have hSame :
      (s.system.heard (.getJob job.target)).read job.target =
        s.system.heard (.getJob job.target) :=
    Cluster.read_of_staying hStaying
  rw [hSame] at hAfter
  rw [hAfter] at hFound
  rcases hFound with ⟨current, hGet, rfl⟩ | ⟨hAbsent, -⟩
  · rw [Cluster.heard_jobs, hOld] at hGet
    cases hGet
    exact ⟨rfl, hAfter, hCancelled⟩
  · rw [Cluster.heard_jobs, hOld] at hAbsent
    cases hAbsent

theorem find_absent
    {outcome : Except Failure Job}
    (hFree : s.system.Unhindered)
    (hStaying : s.system.terminating.get? job.target = none)
    (hAbsent : s.system.jobs.get? job.target = none)
    (h : (onCluster job settings).workload.find.Leads s
      outcome s') :
    (∃ message, outcome = .error (.notFound message)) ∧
      s'.system = s.system.heard (.getJob job.target) ∧
      s'.cancelledAt = s.cancelledAt := by
  rcases find_unhindered hFree h with
    ⟨hAfter, hCancelled, hFound⟩
  have hSame :
      (s.system.heard (.getJob job.target)).read job.target =
        s.system.heard (.getJob job.target) :=
    Cluster.read_of_staying hStaying
  rw [hSame] at hAfter
  rw [hAfter] at hFound
  rcases hFound with ⟨current, hGet, -⟩ | ⟨-, hMissing⟩
  · rw [Cluster.heard_jobs, hAbsent] at hGet
    cases hGet
  · exact ⟨hMissing, hAfter, hCancelled⟩

/- The deletion of a job that stays is accepted. -/
theorem remove_staying
    {propagation : Option Propagation}
    {outcome : Except Failure Unit}
    (hFree : s.system.Unhindered)
    (hStaying : s.system.terminating.get? job.target = none)
    (hStored : s.system.jobs.contains job.target = true)
    (h : ((onCluster job settings).workload.remove
      propagation).Leads s outcome s') :
    outcome = .ok () ∧
      s'.system =
        (s.system.heard
          (.deleteJob job.target propagation)).leaving
            job.target s.system.deletionLag ∧
      s'.cancelledAt = s.cancelledAt := by
  rcases remove_unhindered hFree h with
    ⟨hCancelled, ⟨hGone, -⟩ | ⟨-, -, hAfter, hOk⟩⟩
  · rw [Table.contains, hStaying, hStored] at hGone
    rcases hGone with hGone | hGone <;> cases hGone
  · exact ⟨hOk, hAfter, hCancelled⟩

end JobController

end Redeploy

------------------------------------------------------------
-- Pod Deletions
------------------------------------------------------------

namespace Redeploy

variable {ns : String}
variable {pods : List Pod}
variable {s s' : Situation Cluster}
variable {outcome : Except Failure Unit}

/- Where no failure is scripted, all pods are deleted, each by
   a request of its own, and nothing else changes but what is
   left of the script. -/
theorem NodePods.Sweeps.clears
    (hFree : s.system.Unhindered)
    (h : NodePods.Sweeps Cluster.client ns pods s
      outcome s') :
    outcome = .ok () ∧
      s'.system.Unhindered ∧
      s'.system =
        { s.system with
          pods :=
            s.system.pods.eraseAll (pods.map (·.keyIn ns))
          calls :=
            s.system.calls ++
              (pods.map (·.keyIn ns)).map .deletePod
          script := s'.system.script } := by
  induction h with
  | @done s =>
      refine ⟨rfl, hFree, ?_⟩
      simp [Table.eraseAll]
  | @next pod _ s _ _ _ _ hPod _ _ ih =>
      rcases Cluster.leads_deletePod hPod with ⟨hStep, -⟩
      rcases Cluster.deletePod_cases hStep with
        hRefused | ⟨-, -, hAfter⟩
      · exact absurd hFree hRefused.not_unhindered
      have hFree' := hFree.heard (.deletePod (pod.keyIn ns))
      rw [hAfter] at ih
      rcases ih hFree' with ⟨hOk, hLast, hEnd⟩
      refine ⟨hOk, hLast, hEnd.trans ?_⟩
      rw [Cluster.heard_calls, List.append_assoc]
      rfl
  | stop hPod hStays =>
      rcases Cluster.leads_deletePod hPod with ⟨hStep, -⟩
      rcases Cluster.deletePod_cases hStep with
        hRefused | ⟨-, rfl | rfl, hAfter⟩
      · exact absurd hFree hRefused.not_unhindered
      · cases hStays
      · cases hStays

theorem NodePods.Sweeps.unhindered
    (hFree : s.system.Unhindered)
    (h : NodePods.Sweeps Cluster.client ns pods s
      outcome s') :
    outcome = .ok () ∧
      s'.system.pods =
        s.system.pods.eraseAll (pods.map (·.keyIn ns)) ∧
      s'.system.calls =
        s.system.calls ++
          (pods.map (·.keyIn ns)).map .deletePod ∧
      s'.system.jobs = s.system.jobs ∧
      s'.system.terminating = s.system.terminating ∧
      s'.system.nodes = s.system.nodes := by
  rcases h.clears hFree with ⟨hOk, -, hAfter⟩
  rw [hAfter]
  exact ⟨hOk, rfl, rfl, rfl, rfl, rfl⟩

end Redeploy

------------------------------------------------------------
-- Runs
------------------------------------------------------------

namespace Redeploy

namespace JobController

/- The number of attempts that settings allow a creation. -/
def createAttempts
    (settings : Settings) : Nat :=
  if settings.createBackoff.attempts = 0 then 8
  else settings.createBackoff.attempts

theorem createAttempts_pos
    (settings : Settings) :
    0 < createAttempts settings := by
  unfold createAttempts
  split <;> omega

/- Every run of an upsert goes in one of the ways listed. -/
theorem upsert_leads
    (job : Job)
    (settings : Settings)
    (w : World Cluster) :
    (onCluster job settings).workload.Upserts
      (createAttempts settings) w.situation
      ((onCluster job settings).upsert.run w).1
      ((onCluster job settings).upsert.run w).2.situation := by
  have hRun :=
    Act.leads_run (onCluster job settings).upsert w
  exact Workload.leads_upsert hRun.within

end JobController

end Redeploy

------------------------------------------------------------
-- A Small Cluster
------------------------------------------------------------

namespace Redeploy

namespace Sample

/- A job and a pod that it created. -/
def job : Job where
  metadata :=
    { name := some "j", ns := some "a", uid := some "u" }
  spec := some {}

def pod : Pod :=
  (Pod.bound ⟨"a", "p"⟩ "n" .empty).createdBy
    (.owner "Job" "a" "j" "u")

/- A cluster that holds both, after some moves more. -/
def world
    (moves : List Cluster.Move) : World Cluster where
  system :=
    (.storeJob job :: .storePod pod :: moves).foldl
      Cluster.move { uidOf := fun _ => "v" }

/- The same where a deletion lags by one read. -/
def lagging : World Cluster :=
  world [.setDeletionLag 1]

theorem reachable_world
    (moves : List Cluster.Move) :
    (world moves).system.Reachable :=
  ⟨_, _, rfl⟩

theorem unhindered_lagging :
    lagging.system.Unhindered := by
  intro operation outcome hOutcome
  cases hOutcome

end Sample

end Redeploy
