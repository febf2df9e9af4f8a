import Redeploy.Proofs.JobController.OnCluster
import Redeploy.Proofs.JobController.Recorded

/-
  What a controller can reach in a cluster in memory.

  Key definitions include:
    * `Call.Within`
    * `Cluster.Serves`
    * `JobController.Confined`
    * `JobController.session`

  Main results:
    * `JobController.confined_perform`
    * `JobController.session_confined`

  Whatever it is told to do, a controller asks for its own
  job only and for pods of its own namespace, and it takes
  away no other pods than those of a job that it found.  Each
  request keeps this up, so every run does, and so does one
  run after the other.
-/

------------------------------------------------------------
-- Requests Beside a Job
------------------------------------------------------------

namespace Redeploy

/- Whether a call is about one job, or about pods of the
   namespace of that job. -/
def Call.Within
    (target : ObjectKey) : Call → Prop
  | .getJob key => key = target
  | .createJob key => key = target
  | .deleteJob key _ => key = target
  | .listPods ns _ => ns = target.ns
  | .deletePod key => key.ns = target.ns
  | .listNodes _ => False

namespace Cluster

/- Whether a cluster has heard one more call, and all but one
   job is as it was. -/
structure Serves
    (key : ObjectKey)
    (call : Call)
    (c c' : Cluster) : Prop
    extends Spares key c c' where
  pods : c'.pods = c.pods
  calls : c'.calls = c.calls ++ [call]

variable {c c' : Cluster}
variable {key : ObjectKey}

theorem serves_heard
    (key : ObjectKey)
    (call : Call)
    (c : Cluster) :
    Serves key call c (c.heard call) where
  toSpares := (agreesBeside_heard key c call).toSpares
  pods := rfl
  calls := rfl

/- What follows after a call is heard may touch that job. -/
theorem Serves.of_agrees
    {call : Call}
    (hAgrees : AgreesBeside key (c.heard call) c')
    (hCalls : c'.calls = (c.heard call).calls) :
    Serves key call c c' where
  toSpares :=
    (serves_heard key call c).toSpares.trans hAgrees.toSpares
  pods := hAgrees.pods
  calls := hCalls

theorem serves_getJob
    {answer : Except ClientError Job}
    (h : getJob key c = (answer, c')) :
    Serves key (.getJob key) c c' := by
  rcases getJob_cases h with ⟨_, _, _, rfl⟩ | ⟨_, rfl, _⟩
  · exact serves_heard _ _ _
  · exact .of_agrees (agreesBeside_read _ _)
      (read_calls _ _)

theorem serves_submitted
    (job : Job)
    (c : Cluster) :
    Serves job.key (.createJob job.key) c
      (c.submitted job) where
  toSpares := (agreesBeside_submitted job c).toSpares
  pods := (agreesBeside_submitted job c).pods
  calls := read_calls _ _

theorem serves_createJob
    {job : Job}
    {answer : Except ClientError Job}
    (h : createJob job c = (answer, c')) :
    Serves job.key (.createJob job.key) c c' := by
  rcases createJob_cases h with
    ⟨_, _, _, rfl⟩ | ⟨_, _, _, rfl⟩ |
      ⟨_, _, _, _, rfl⟩ | ⟨_, _, _, rfl⟩
  · exact serves_heard _ _ _
  · exact serves_submitted job c
  · exact serves_submitted job c
  · have hLooked := serves_submitted job c
    refine
      { jobs := ?_
        terminating := hLooked.terminating
        nodes := hLooked.nodes
        pods := hLooked.pods
        calls := hLooked.calls }
    intro k hKey
    rw [← hLooked.jobs k hKey]
    change ((c.submitted job).jobs.insert job.key _).get? k =
      _
    rw [Table.get?_insert, if_neg hKey]

theorem serves_deleteJob
    {propagation : Option Propagation}
    {answer : Except ClientError Unit}
    (h : deleteJob key propagation c = (answer, c')) :
    Serves key (.deleteJob key propagation) c c' := by
  rcases deleteJob_cases h with
    ⟨_, _, _, rfl⟩ | ⟨_, _, _, rfl⟩ | ⟨_, _, _, _, rfl⟩
  · exact serves_heard _ _ _
  · exact serves_heard _ _ _
  · exact .of_agrees (agreesBeside_leaving _ _ _) rfl

theorem serves_listPods
    {ns selector : String}
    {answer : Except ClientError (List Pod)}
    (key : ObjectKey)
    (h : listPods ns selector c = (answer, c')) :
    Serves key (.listPods ns selector) c c' := by
  rcases listPods_cases h with ⟨_, _, _, rfl⟩ | ⟨_, _, rfl⟩
  · exact serves_heard _ _ _
  · exact serves_heard _ _ _

end Cluster

end Redeploy

------------------------------------------------------------
-- Confinement
------------------------------------------------------------

namespace Redeploy

namespace JobController

/-
  Whether some requests have led from one cluster to another
  and none of them reached beyond the job that is wanted and
  the pods of a job that was found in its place.
-/
structure Confined
    (job : Job)
    (c : Cluster)
    (record : List Answered)
    (c' : Cluster) : Prop
    extends Cluster.Spares job.target c c' where
  calls : c'.calls = c.calls ++ record.map (·.call)
  within :
    ∀ request ∈ record, request.call.Within job.target
  /- A pod stays, or was owned by a job that was found. -/
  pods :
    ∀ key, c'.pods.get? key = c.pods.get? key ∨
      (c'.pods.get? key = none ∧
        ∃ found pod,
          .getJob job.target (.ok found) ∈ record ∧
            c.Owns found job.target.ns key pod)

namespace Confined

variable {job : Job}
variable {c c' c'' : Cluster}
variable {record record' : List Answered}

/- What is scripted is out of reach. -/
theorem scripted
    (job : Job)
    (c : Cluster)
    (script : Operation → List (Option Status)) :
    Confined job c [] { c with script } where
  jobs _ _ := rfl
  terminating _ _ := rfl
  nodes := rfl
  calls := (List.append_nil _).symm
  within _ h := by cases h
  pods _ := .inl rfl

/- No pod is brought. -/
theorem pods_subset
    (h : Confined job c record c')
    {key : ObjectKey}
    {pod : Pod}
    (hPod : c'.pods.get? key = some pod) :
    c.pods.get? key = some pod := by
  rcases h.pods key with hSame | ⟨hGone, -⟩
  · rw [← hSame, hPod]
  · rw [hPod] at hGone
    cases hGone

/- What a job owns afterwards it owned before. -/
theorem owns
    (h : Confined job c record c')
    {found : Job}
    {key : ObjectKey}
    {pod : Pod}
    (hOwns : c'.Owns found job.target.ns key pod) :
    c.Owns found job.target.ns key pod :=
  hOwns.congr (h.pods_subset hOwns.stored)

theorem pod_key
    (h : Confined job c record c')
    (hKeys :
      ∀ key pod, c.pods.get? key = some pod →
        pod.key = key) :
    ∀ key pod, c'.pods.get? key = some pod →
      pod.key = key := by
  intro key pod hPod
  exact hKeys key pod (h.pods_subset hPod)

/- One run may come after another. -/
theorem trans
    (h : Confined job c record c')
    (h' : Confined job c' record' c'') :
    Confined job c (record ++ record') c'' where
  toSpares := h.toSpares.trans h'.toSpares
  calls := by
    rw [h'.calls, h.calls, List.map_append,
      List.append_assoc]
  within := by
    intro request hRequest
    rcases List.mem_append.mp hRequest with hFirst | hLater
    · exact h.within request hFirst
    · exact h'.within request hLater
  pods := by
    intro key
    rcases h'.pods key with hSame | ⟨hGone, found, pod,
      hFound, hOwns⟩
    · rw [hSame]
      refine (h.pods key).imp_right ?_
      rintro ⟨hGone, found, pod, hFound, hOwns⟩
      exact ⟨hGone, found, pod,
        List.mem_append_left _ hFound, hOwns⟩
    · exact .inr ⟨hGone, found, pod,
        List.mem_append_right _ hFound, h.owns hOwns⟩

/- One more request reaches no further, if it takes away only
   pods of a job that was found. -/
theorem extend
    (h : Confined job c record c')
    {request : Answered}
    (hSpares : Cluster.Spares job.target c' c'')
    (hCalls : c''.calls = c'.calls ++ [request.call])
    (hWithin : request.call.Within job.target)
    (hPods :
      ∀ key, c''.pods.get? key = c'.pods.get? key ∨
        (c''.pods.get? key = none ∧
          ∃ found pod,
            .getJob job.target (.ok found) ∈ record ∧
              c.Owns found job.target.ns key pod)) :
    Confined job c (record ++ [request]) c'' where
  toSpares := h.toSpares.trans hSpares
  calls := by
    rw [hCalls, h.calls, List.map_append, List.append_assoc]
    rfl
  within := by
    intro asked hAsked
    rcases List.mem_append.mp hAsked with hFirst | hLast
    · exact h.within asked hFirst
    · cases List.mem_singleton.mp hLast
      exact hWithin
  pods := by
    have hKnown
        {found : Job}
        (hFound :
          .getJob job.target (.ok found) ∈ record) :
        .getJob job.target (.ok found) ∈
          record ++ [request] :=
      List.mem_append_left _ hFound
    intro key
    rcases hPods key with hSame | ⟨hGone, found, pod, hFound,
      hOwns⟩
    · rw [hSame]
      refine (h.pods key).imp_right ?_
      rintro ⟨hGone, found, pod, hFound, hOwns⟩
      exact ⟨hGone, found, pod, hKnown hFound, hOwns⟩
    · exact .inr ⟨hGone, found, pod, hKnown hFound, hOwns⟩

/- Requests about the job take away no pods. -/
theorem serve
    (h : Confined job c record c')
    {request : Answered}
    (hServes :
      Cluster.Serves job.target request.call c' c'')
    (hWithin : request.call.Within job.target) :
    Confined job c (record ++ [request]) c'' := by
  apply h.extend hServes.toSpares hServes.calls hWithin
  intro key
  left
  rw [hServes.pods]

theorem deletePod
    (h : Confined job c record c')
    {found : Job}
    {key : ObjectKey}
    {pod : Pod}
    {answer : Except ClientError Unit}
    (hFound : .getJob job.target (.ok found) ∈ record)
    (hOwns : c.Owns found job.target.ns key pod)
    (hDelete : Cluster.deletePod key c' = (answer, c'')) :
    Confined job c (record ++ [.deletePod key answer])
      c'' := by
  have hWithin :
      (Answered.deletePod key answer).call.Within
        job.target :=
    hOwns.ns_eq
  rcases Cluster.deletePod_cases hDelete with
    ⟨_, _, _, rfl⟩ | ⟨_, _, rfl⟩
  · exact h.serve (Cluster.serves_heard _ _ _) hWithin
  have hSpares :
      Cluster.Spares job.target c'
        { c'.heard (.deletePod key) with
          pods := c'.pods.erase key } :=
    { jobs := fun _ _ => rfl
      terminating := fun _ _ => rfl
      nodes := rfl }
  apply h.extend hSpares rfl hWithin
  intro k
  change (c'.pods.erase key).get? k = _ ∨
    ((c'.pods.erase key).get? k = none ∧ _)
  rw [Table.get?_erase]
  by_cases hKey : k = key
  · right
    rw [if_pos hKey, hKey]
    exact ⟨rfl, found, pod, hFound, hOwns⟩
  · left
    rw [if_neg hKey]

end Confined

end JobController

end Redeploy

------------------------------------------------------------
-- Steps
------------------------------------------------------------

namespace Redeploy

namespace JobController

/- Whether the requests made so far were confined. -/
def ConfinedAt
    (job : Job)
    (c : Cluster)
    (s : Situation (Watched Cluster Answered)) : Prop :=
  Confined job c s.system.events s.system.system

namespace ConfinedAt

variable {job : Job}
variable {settings : Settings}
variable {c : Cluster}
variable {s s' : Situation (Watched Cluster Answered)}

theorem find
    {outcome : Except Failure Job}
    (h : ConfinedAt job c s)
    (hFind :
      (onCluster job settings).recorded.workload.find.Leads s
        outcome s') :
    ConfinedAt job c s' := by
  rcases recorded_find hFind with
    ⟨hPlain, answer, hEvents, -⟩
  rcases leads_find hPlain with ⟨_, hStep, -⟩
  have hKey : (onCluster job settings).key = job.target :=
    identity_onCluster_key job settings
  rw [ConfinedAt, hEvents, hKey]
  exact Confined.serve h (Cluster.serves_getJob hStep) rfl

theorem create
    {outcome : Except Failure Unit}
    (h : ConfinedAt job c s)
    (hCreate :
      (onCluster job settings).recorded.workload.create.Leads
        s outcome s') :
    ConfinedAt job c s' := by
  rcases recorded_create hCreate with
    ⟨hPlain, answer, hEvents, -⟩
  rcases leads_create hPlain with ⟨_, hStep, -⟩
  have hServes := Cluster.serves_createJob hStep
  have hKey : (submission job).key = job.target :=
    submission_key job
  rw [ConfinedAt, hEvents]
  refine Confined.serve h ?_ hKey
  change Cluster.Serves job.target
    (.createJob (submission job).key) _ _
  rw [← hKey]
  exact hServes

theorem podsOf
    {current : Job}
    {outcome : Except Failure NodePods}
    (h : ConfinedAt job c s)
    (hPods :
      ((onCluster job settings).recorded.workload.podsOf
        current).Leads s outcome s') :
    ConfinedAt job c s' := by
  rcases recorded_podsOf hPods with
    ⟨hPlain, answer, hEvents⟩
  rcases leads_podsOf hPlain with ⟨_, hStep, -⟩
  have hNs :
      (onCluster job settings).identity.ns = job.target.ns :=
    workload_onCluster_ns job settings
  rw [ConfinedAt, hEvents, hNs]
  exact Confined.serve h
    (Cluster.serves_listPods job.target hStep) rfl

theorem remove
    {propagation : Option Propagation}
    {outcome : Except Failure Unit}
    (h : ConfinedAt job c s)
    (hRemove :
      ((onCluster job settings).recorded.workload.remove
        propagation).Leads s outcome s') :
    ConfinedAt job c s' := by
  rcases recorded_remove hRemove with
    ⟨hPlain, answer, hEvents, -⟩
  rcases leads_remove hPlain with ⟨_, hStep, -⟩
  have hKey : (onCluster job settings).key = job.target :=
    identity_onCluster_key job settings
  rw [ConfinedAt, hEvents, hKey]
  exact Confined.serve h (Cluster.serves_deleteJob hStep) rfl

end ConfinedAt

/- Where a job has been found, after some requests. -/
structure Fetched
    (job found : Job)
    (c : Cluster)
    (s : Situation (Watched Cluster Answered)) : Prop where
  confined : ConfinedAt job c s
  known :
    .getJob job.target (.ok found) ∈ s.system.events

variable {job found : Job}
variable {settings : Settings}
variable {c : Cluster}
variable {s s' : Situation (Watched Cluster Answered)}

theorem ConfinedAt.fetch
    (h : ConfinedAt job c s)
    (hFind :
      (onCluster job settings).recorded.workload.find.Leads s
        (.ok found) s') :
    Fetched job found c s' := by
  refine ⟨h.find hFind, ?_⟩
  rcases recorded_find hFind with
    ⟨-, answer, hEvents, hOutcome⟩
  have hKey : (onCluster job settings).key = job.target :=
    identity_onCluster_key job settings
  cases answer with
  | error e => cases hOutcome
  | ok _ =>
      cases hOutcome
      rw [hEvents, hKey]
      simp

/- Pods that were collected for a job that was found may be
   deleted. -/
theorem Fetched.sweep
    {pods : NodePods}
    {outcome : Except Failure Unit}
    (h : Fetched job found c s)
    (hOwned :
      ∀ pod ∈ pods.values,
        c.Owns found job.target.ns
          (pod.keyIn job.target.ns) pod)
    (hSweep :
      NodePods.Sweeps
        (onCluster job settings).recorded.workload.client
        (onCluster job settings).recorded.workload.identity.ns
        pods.values s outcome s') :
    Fetched job found c s' := by
  have hNs :
      (onCluster job settings).recorded.workload.identity.ns =
        job.target.ns :=
    workload_onCluster_ns job settings
  rw [hNs] at hSweep
  apply hSweep.preserves _ h
  intro pod hPod t answer t' hStart hDelete
  rcases Client.recorded_deletePod hDelete with
    ⟨hPlain, hEvents⟩
  rcases Cluster.leads_deletePod hPlain with ⟨hStep, -⟩
  refine ⟨?_, ?_⟩
  · rw [ConfinedAt, hEvents]
    exact hStart.confined.deletePod hStart.known
      (hOwned pod hPod) hStep
  · rw [hEvents]
    exact List.mem_append_left _ hStart.known

end JobController

end Redeploy

------------------------------------------------------------
-- Runs
------------------------------------------------------------

namespace Redeploy

namespace JobController

variable {job : Job}
variable {settings : Settings}
variable {attempts : Nat}
variable {c : Cluster}
variable {s s' : Situation (Watched Cluster Answered)}
variable {outcome : Except Failure Unit}

/- What was found once is known ever after. -/
private theorem Fetched.later
    {found : Job}
    {request : Answered}
    (h : Fetched job found c s)
    (hNext : ConfinedAt job c s')
    (hEvents :
      s'.system.events = s.system.events ++ [request]) :
    Fetched job found c s' := by
  refine ⟨hNext, ?_⟩
  rw [hEvents]
  exact List.mem_append_left _ h.known

/- The pods that are collected for a job that was found are
   its own. -/
private theorem Fetched.collect
    {found : Job}
    {pods : NodePods}
    (hKeys :
      ∀ key pod, c.pods.get? key = some pod →
        pod.key = key)
    (h : Fetched job found c s)
    (hPods :
      ((onCluster job settings).recorded.workload.podsOf
        found).Leads s (.ok pods) s') :
    Fetched job found c s' ∧
      ∀ pod ∈ pods.values,
        c.Owns found job.target.ns
          (pod.keyIn job.target.ns) pod := by
  rcases recorded_podsOf hPods with ⟨hPlain, _, hEvents⟩
  refine ⟨h.later (h.confined.podsOf hPods) hEvents, ?_⟩
  rw [podsOf_collected hPlain]
  intro pod hPod
  apply Confined.owns h.confined
  exact Cluster.owns_of_mem_collected
    (Confined.pod_key h.confined hKeys) hPod

private theorem Fetched.remove
    {found : Job}
    {propagation : Option Propagation}
    {outcome : Except Failure Unit}
    (h : Fetched job found c s)
    (hRemove :
      ((onCluster job settings).recorded.workload.remove
        propagation).Leads s outcome s') :
    Fetched job found c s' := by
  rcases recorded_remove hRemove with ⟨_, _, hEvents, _⟩
  exact h.later (h.confined.remove hRemove) hEvents

private theorem Fetched.create
    {found : Job}
    (h : Fetched job found c s)
    (hCreate :
      (onCluster job settings).recorded.workload.create.Leads
        s outcome s') :
    Fetched job found c s' := by
  rcases recorded_create hCreate with ⟨_, _, hEvents, _⟩
  exact h.later (h.confined.create hCreate) hEvents

private theorem Fetched.find
    {found : Job}
    {looked : Except Failure Job}
    (h : Fetched job found c s)
    (hFind :
      (onCluster job settings).recorded.workload.find.Leads s
        looked s') :
    Fetched job found c s' := by
  rcases recorded_find hFind with ⟨_, _, hEvents, _⟩
  exact h.later (h.confined.find hFind) hEvents

/- All that replaces the job is confined. -/
theorem ConfinedAt.upserts
    (hKeys :
      ∀ key pod, c.pods.get? key = some pod →
        pod.key = key)
    (hStart : ConfinedAt job c s)
    (h :
      (onCluster job settings).recorded.workload.Upserts
        attempts s outcome s') :
    ConfinedAt job c s' := by
  cases h with
  | unreadable hFind => exact hStart.find hFind
  | fresh hFind _ hCreate =>
      exact hCreate.preserves
        (fun _ _ _ hBefore hCall => hBefore.create hCall)
        (hStart.find hFind)
  | uncollected hFind hPods =>
      exact (hStart.find hFind).podsOf hPods
  | unremoved hFind hPods hRemove =>
      exact ((hStart.find hFind).podsOf hPods).remove hRemove
  | uncreated hFind hPods hRemove hCreate =>
      exact hCreate.preserves
        (fun _ _ _ hBefore hCall => hBefore.create hCall)
        (((hStart.find hFind).podsOf hPods).remove hRemove)
  | replaced hFind hPods hRemove hCreate hSweep =>
      rcases (hStart.fetch hFind).collect hKeys hPods with
        ⟨hListed, hOwned⟩
      have hCreated :=
        hCreate.preserves
          (fun _ _ _ hBefore hCall =>
            Fetched.create hBefore hCall)
          (hListed.remove hRemove)
      exact (hCreated.sweep hOwned hSweep).confined

/- All that deletes the job is confined. -/
theorem ConfinedAt.deletes
    {cascade : Bool}
    (hKeys :
      ∀ key pod, c.pods.get? key = some pod →
        pod.key = key)
    (hStart : ConfinedAt job c s)
    (h :
      (onCluster job settings).recorded.workload.Deletes
        cascade attempts s outcome s') :
    ConfinedAt job c s' := by
  have hCollect
      {found : Job}
      {collected : Except Failure NodePods}
      {t t' : Situation (Watched Cluster Answered)}
      (hBefore : ConfinedAt job c t)
      (hPods :
        (onCluster job settings).recorded.workload.Collects
          found t cascade collected t') :
      ConfinedAt job c t' := by
    cases hPods with
    | skipped => exact hBefore
    | asked hPods => exact hBefore.podsOf hPods
  have hLook :
      ∀ t outcome t', ConfinedAt job c t →
        (onCluster job settings).recorded.workload.absent.Leads
          t outcome t' →
        ConfinedAt job c t' := by
    intro t outcome t' hBefore hAbsent
    rcases Workload.leads_absent hAbsent with ⟨_, hFind, _⟩
    exact hBefore.find hFind
  cases h with
  | unfound hFind => exact hStart.find hFind
  | uncollected hFind hPods =>
      exact hCollect (hStart.find hFind) hPods
  | unremoved hFind hPods hRemove =>
      exact (hCollect (hStart.find hFind) hPods).remove
        hRemove
  | lingering hFind hPods hRemove hWait =>
      exact hWait.preserves hLook
        ((hCollect (hStart.find hFind) hPods).remove hRemove)
  | @gone found pods _ s₂ _ _ _ _ hFind hPods hRemove hWait
      hSweep =>
      have hListed :
          Fetched job found c s₂ ∧
            ∀ pod ∈ pods.values,
              c.Owns found job.target.ns
                (pod.keyIn job.target.ns) pod := by
        cases hPods with
        | skipped =>
            refine ⟨hStart.fetch hFind, ?_⟩
            intro pod hPod
            simp [Table.values, Table.empty] at hPod
        | asked hPods =>
            exact (hStart.fetch hFind).collect hKeys hPods
      have hGone :=
        hWait.preserves
          (fun _ _ _ hBefore hAbsent =>
            (Workload.leads_absent hAbsent).elim
              fun _ hLook => Fetched.find hBefore hLook.1)
          (hListed.1.remove hRemove)
      exact (hGone.sweep hListed.2 hSweep).confined

/- Every run of a controller is confined. -/
theorem confined_perform
    {command : Command}
    {w after : World Cluster}
    {record : List Answered}
    (hKeys :
      ∀ key pod, w.system.pods.get? key = some pod →
        pod.key = key)
    (h :
      ((onCluster job settings).recorded.perform command).run
          (w.beside []) =
        (outcome, after.beside record)) :
    Confined job w.system record after.system := by
  have hLeads :
      ((onCluster job settings).recorded.perform
        command).Leads (w.beside []).situation outcome
          (after.beside record).situation :=
    ⟨_, _, rfl, h, rfl⟩
  have hStart :
      ConfinedAt job w.system (w.beside []).situation :=
    .scripted job w.system w.system.script
  cases command with
  | upsert =>
      replace hLeads :
          (onCluster job settings).recorded.upsert.Leads
            _ outcome _ := hLeads
      exact hStart.upserts hKeys
        (Workload.leads_upsert hLeads.within)
  | delete cascade =>
      replace hLeads :
          ((onCluster job settings).recorded.delete
            cascade).Leads _ outcome _ := hLeads
      exact hStart.deletes hKeys
        (Workload.leads_delete hLeads.within)
  | status =>
      rcases leads_status hLeads with ⟨_, hFind⟩
      exact hStart.find hFind
  | awaitCompletion =>
      exact awaitCompletion_preserves
        (fun _ _ _ hBefore hFind => hBefore.find hFind)
        hStart hLeads

end JobController

end Redeploy

------------------------------------------------------------
-- Sessions
------------------------------------------------------------

namespace Redeploy

namespace JobController

/- A command, when all is cancelled under it, and the
   outcomes that are scripted before it. -/
structure Turn where
  command : Command
  cancelledAt : Option Nat
  script : Operation → List (Option Status)

/- The world in which a turn begins. -/
def Turn.begins
    (turn : Turn)
    (w : World Cluster) : World Cluster :=
  { w with
    cancelledAt := turn.cancelledAt
    system := { w.system with script := turn.script } }

/- Where a controller leads that is told one thing after the
   other. -/
def session
    (controller : JobController Cluster) :
    List Turn → World Cluster → World Cluster
  | [], w => w
  | turn :: turns, w =>
      session controller turns
        ((controller.perform turn.command).run
          (turn.begins w)).2

/- The requests that it makes on the way. -/
def requests
    (controller : JobController Cluster) :
    List Turn → World Cluster → List Answered
  | [], _ => []
  | turn :: turns, w =>
      ((controller.recorded.perform turn.command).run
          ((turn.begins w).beside [])).2.system.events ++
        requests controller turns
          ((controller.perform turn.command).run
            (turn.begins w)).2

variable {job : Job}
variable {settings : Settings}
variable {controller : JobController Cluster}

/-
  Whatever a controller is told, whichever failures are
  scripted and whenever all is cancelled, it asks for the job
  that it is for and for pods of the same namespace.  All
  else is left as it was, but for pods of jobs that it found.
-/
theorem session_confined
    (turns : List Turn)
    {w : World Cluster}
    (hAccepted :
      ofJob job (some Cluster.client) settings =
        .ok controller)
    (hReachable : w.system.Reachable) :
    job.target.name ≠ "" ∧
      Confined job w.system (controller.requests turns w)
        (controller.session turns w).system := by
  have hName : job.target.name ≠ "" := by
    intro hEmpty
    replace hEmpty : job.metadata.nameText = "" := hEmpty
    simp [ofJob, hEmpty] at hAccepted
  refine ⟨hName, ?_⟩
  cases eq_onCluster hAccepted
  have hKeys := hReachable.sound.pod_key
  clear hReachable hAccepted
  -- The turns that follow begin in a cluster that need not
  -- be reachable, but holds no other pods.
  induction turns generalizing w with
  | nil => exact .scripted job w.system w.system.script
  | cons turn turns ih =>
      rcases (onCluster job settings).exists_record
          turn.command (turn.begins w) with
        ⟨record, hRun⟩
      have hBegins :
          Confined job w.system [] (turn.begins w).system :=
        .scripted job w.system turn.script
      have hTurn :
          Confined job (turn.begins w).system record _ :=
        confined_perform hKeys hRun
      rw [session, requests, hRun]
      exact hBegins.trans (hTurn.trans
        (ih (hTurn.pod_key hKeys)))

end JobController

namespace Sample

/- An upsert whose creation is refused once, and a deletion
   that is cancelled from the first on. -/
def turns : List JobController.Turn :=
  [{ command := .upsert
     cancelledAt := none
     script := fun operation =>
       if operation = .createJob then
         [some (.internal "down")]
       else [] },
    { command := .delete true
      cancelledAt := some 0
      script := fun _ => [] }]

end Sample

namespace JobController

/- What these two reach in a small cluster. -/
theorem session_confined_refused :
    ofJob Sample.job (some Cluster.client) {} =
        .ok (onCluster Sample.job {}) ∧
      Sample.lagging.system.Reachable ∧
      Sample.job.target.name ≠ "" ∧
      Confined Sample.job Sample.lagging.system
        ((onCluster Sample.job {}).requests Sample.turns
          Sample.lagging)
        ((onCluster Sample.job {}).session Sample.turns
          Sample.lagging).system := by
  have hAccepted :
      ofJob Sample.job (some Cluster.client) {} =
        .ok (onCluster Sample.job {}) :=
    ofJob_eq_onCluster (by decide) {}
  have hReachable : Sample.lagging.system.Reachable :=
    Sample.reachable_world _
  exact ⟨hAccepted, hReachable,
    session_confined Sample.turns hAccepted hReachable⟩

end JobController

end Redeploy
