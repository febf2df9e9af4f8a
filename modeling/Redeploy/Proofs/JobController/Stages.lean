import Redeploy.Proofs.JobController.OnCluster

/-
  The stages through which a controller takes its job in a
  cluster in memory.

  Key definitions include:
    * `JobController.Standing`
    * `JobController.Departing`
    * `JobController.Created`

  Main results:
    * `JobController.Standing.find`
    * `JobController.Standing.podsOf`
    * `JobController.Standing.remove`
    * `JobController.Departing.lingers_find`
    * `JobController.Departing.gone_find`
    * `JobController.Departing.lingers_create`
    * `JobController.Departing.gone_create`

  The stages count the calls made since the cluster was as it
  was at first.  Nothing but the job changes until a new one
  is created, as long as no failure is scripted.
-/

------------------------------------------------------------
-- Stages
------------------------------------------------------------

namespace Redeploy

namespace JobController

/- Where some calls have led, none of which touched the job
   that stands in its place. -/
structure Standing
    (job old : Job)
    (c : Cluster)
    (cut : Option Nat)
    (made : List Call)
    (s : Situation Cluster) : Prop where
  cancelledAt : s.cancelledAt = cut
  unhindered : s.system.Unhindered
  staying : s.system.terminating.get? job.target = none
  stored : s.system.jobs.get? job.target = some old
  agrees : c.AgreesBeside job.target s.system
  calls : s.system.calls = c.calls ++ made

/- Where some calls have led that leave a job in its place
   for a number of reads more. -/
structure Departing
    (job : Job)
    (c : Cluster)
    (cut : Option Nat)
    (made : List Call)
    (left : Nat)
    (s : Situation Cluster) : Prop where
  cancelledAt : s.cancelledAt = cut
  unhindered : s.system.Unhindered
  departs : s.system.Departs job.target left
  agrees : c.AgreesBeside job.target s.system
  calls : s.system.calls = c.calls ++ made

/- Where some calls have led the last of which has created a
   job. -/
structure Created
    (job : Job)
    (c : Cluster)
    (made : List Call)
    (s : Situation Cluster) : Prop where
  unhindered : s.system.Unhindered
  stored :
    s.system.jobs.get? job.target =
      some (Cluster.versioned (c.uidOf (c.version + 1))
        (c.version + 1) (submission job))
  staying : s.system.terminating.get? job.target = none
  spares : c.Spares job.target s.system
  pods : s.system.pods = c.pods
  calls : s.system.calls = c.calls ++ made

variable {job old : Job}
variable {s : Situation Cluster}

theorem Standing.start
    (hFree : s.system.Unhindered)
    (hStaying : s.system.terminating.get? job.target = none)
    (hOld : s.system.jobs.get? job.target = some old) :
    Standing job old s.system s.cancelledAt [] s where
  cancelledAt := rfl
  unhindered := hFree
  staying := hStaying
  stored := hOld
  agrees := .refl _ _
  calls := (List.append_nil _).symm

/- A job that is absent has departed. -/
theorem Departing.start
    (hFree : s.system.Unhindered)
    (hStaying : s.system.terminating.get? job.target = none)
    (hAbsent : s.system.jobs.get? job.target = none) :
    Departing job s.system s.cancelledAt [] 0 s where
  cancelledAt := rfl
  unhindered := hFree
  departs := .gone hStaying hAbsent
  agrees := .refl _ _
  calls := (List.append_nil _).symm

end JobController

end Redeploy

------------------------------------------------------------
-- Jobs That Stand
------------------------------------------------------------

namespace Redeploy

namespace JobController

variable {job old : Job}
variable {settings : Settings}
variable {c : Cluster}
variable {cut : Option Nat}
variable {made : List Call}
variable {s s' : Situation Cluster}

/- A call that is only heard leaves the job in its place. -/
private theorem Standing.heard
    (h : Standing job old c cut made s)
    {call : Call}
    (hAfter : s'.system = s.system.heard call)
    (hCancelled : s'.cancelledAt = s.cancelledAt) :
    Standing job old c cut (made ++ [call]) s' where
  cancelledAt := hCancelled.trans h.cancelledAt
  unhindered := by
    rw [hAfter]
    exact h.unhindered.heard call
  staying := by
    rw [hAfter]
    exact h.staying
  stored := by
    rw [hAfter]
    exact h.stored
  agrees := by
    rw [hAfter]
    exact h.agrees.trans (Cluster.agreesBeside_heard _ _ _)
  calls := by
    rw [hAfter, Cluster.heard_calls, h.calls,
      List.append_assoc]

theorem Standing.find
    {outcome : Except Failure Job}
    (h : Standing job old c cut made s)
    (hFind :
      (onCluster job settings).workload.find.Leads s
        outcome s') :
    outcome = .ok old ∧
      Standing job old c cut
        (made ++ [.getJob job.target]) s' := by
  rcases find_staying h.unhindered h.staying h.stored hFind
    with ⟨hOk, hAfter, hCancelled⟩
  exact ⟨hOk, h.heard hAfter hCancelled⟩

theorem Standing.podsOf
    {outcome : Except Failure NodePods}
    (h : Standing job old c cut made s)
    (hPods :
      ((onCluster job settings).workload.podsOf old).Leads s
        outcome s') :
    outcome = .ok (c.collected old job.target.ns) ∧
      Standing job old c cut
        (made ++
          [.listPods job.target.ns old.podSelector]) s' := by
  rcases podsOf_unhindered h.unhindered hPods with
    ⟨hAfter, hCancelled, hOk⟩
  rw [Cluster.collected_congr h.agrees.pods] at hOk
  exact ⟨hOk, h.heard hAfter hCancelled⟩

/- A job whose deletion is accepted begins to depart. -/
theorem Standing.remove
    {propagation : Option Propagation}
    {outcome : Except Failure Unit}
    (h : Standing job old c cut made s)
    (hRemove :
      ((onCluster job settings).workload.remove
        propagation).Leads s outcome s') :
    outcome = .ok () ∧
      Departing job c cut
        (made ++ [.deleteJob job.target propagation])
        c.deletionLag s' := by
  have hStored :
      s.system.jobs.contains job.target = true :=
    Table.contains_iff.mpr ⟨old, h.stored⟩
  rcases remove_staying h.unhindered h.staying hStored hRemove
    with ⟨hOk, hAfter, hCancelled⟩
  refine ⟨hOk, ?_⟩
  exact
    { cancelledAt := hCancelled.trans h.cancelledAt
      unhindered := by
        rw [hAfter]
        exact h.unhindered.heard
          (.deleteJob job.target propagation)
      departs := by
        rw [hAfter, ← h.agrees.deletionLag]
        exact Cluster.departs_leaving h.staying hStored
      agrees := by
        rw [hAfter]
        have hHeard :=
          h.agrees.trans
            (Cluster.agreesBeside_heard job.target _
              (.deleteJob job.target propagation))
        exact hHeard.trans
          (Cluster.agreesBeside_leaving _ _ _)
      calls := by
        rw [hAfter]
        change s.system.calls ++ [_] = _
        rw [h.calls, List.append_assoc] }

end JobController

end Redeploy

------------------------------------------------------------
-- Jobs That Depart
------------------------------------------------------------

namespace Redeploy

namespace JobController

variable {job : Job}
variable {settings : Settings}
variable {c : Cluster}
variable {cut : Option Nat}
variable {made : List Call}
variable {left : Nat}
variable {s s' : Situation Cluster}

/- To record a call, and perhaps a job with it, is no read. -/
private theorem Departing.recorded
    (h : Departing job c cut made left s)
    (call : Call)
    (created : List Job) :
    Departing job c cut (made ++ [call]) left
      { system := { s.system.heard call with created }
        cancelledAt := s.cancelledAt } where
  cancelledAt := h.cancelledAt
  unhindered := (h.unhindered.heard call).congr rfl
  departs := h.departs.congr rfl rfl
  agrees :=
    { h.agrees.trans
        (Cluster.agreesBeside_heard _ _ call) with }
  calls := by
    change s.system.calls ++ [call] = _
    rw [h.calls, List.append_assoc]

/- One read of a departing job, which finds it. -/
private theorem Departing.read
    (h : Departing job c cut made (left + 1) s) :
    (s.system.read job.target).jobs.contains job.target =
        true ∧
      (s.system.read job.target).terminating.get?
        job.target = some left ∧
      Departing job c cut made left
        { system := s.system.read job.target
          cancelledAt := s.cancelledAt } := by
  rcases h.departs.read_lingering with
    ⟨hLeft, hJobs, hStored⟩
  rw [← hJobs] at hStored
  refine ⟨hStored, hLeft, ?_⟩
  exact
    { cancelledAt := h.cancelledAt
      unhindered :=
        h.unhindered.congr (Cluster.read_script _ _)
      departs := .lingering hLeft hStored
      agrees :=
        h.agrees.trans (Cluster.agreesBeside_read _ _)
      calls := (Cluster.read_calls _ _).trans h.calls }

/- The read that finds it gone. -/
private theorem Departing.read_gone
    (h : Departing job c cut made 0 s) :
    (s.system.read job.target).jobs.get? job.target = none ∧
      Departing job c cut made 0
        { system := s.system.read job.target
          cancelledAt := s.cancelledAt } := by
  rcases h.departs.read_gone with ⟨hStaying, hAbsent⟩
  refine ⟨hAbsent, ?_⟩
  exact
    { cancelledAt := h.cancelledAt
      unhindered :=
        h.unhindered.congr (Cluster.read_script _ _)
      departs := .gone hStaying hAbsent
      agrees :=
        h.agrees.trans (Cluster.agreesBeside_read _ _)
      calls := (Cluster.read_calls _ _).trans h.calls }

/- A departing job is found as long as it has reads left. -/
theorem Departing.lingers_find
    {outcome : Except Failure Job}
    (h : Departing job c cut made (left + 1) s)
    (hFind :
      (onCluster job settings).workload.find.Leads s
        outcome s') :
    (∃ current, outcome = .ok current) ∧
      s'.system.terminating.get? job.target = some left ∧
      Departing job c cut (made ++ [.getJob job.target])
        left s' := by
  have hRecorded :=
    h.recorded (.getJob job.target) s.system.created
  rcases hRecorded.read with ⟨hStored, hLeft, hRead⟩
  rcases find_unhindered h.unhindered hFind with
    ⟨hAfter, hCancelled, hFound⟩
  have hEnd :
      s' =
        { system :=
            (s.system.heard (.getJob job.target)).read
              job.target
          cancelledAt := s.cancelledAt } :=
    Situation.ext hAfter hCancelled
  refine ⟨?_, ?_, ?_⟩
  · rcases hFound with ⟨current, -, rfl⟩ | ⟨hAbsent, -⟩
    · exact ⟨current, rfl⟩
    · replace hStored :
          ((s.system.heard (.getJob job.target)).read
            job.target).jobs.contains job.target = true :=
        hStored
      rw [← hAfter, Table.contains, hAbsent] at hStored
      cases hStored
  · rw [hEnd]
    exact hLeft
  · rw [hEnd]
    exact hRead

/- A departed job is not found, then or later. -/
theorem Departing.gone_find
    {outcome : Except Failure Job}
    (h : Departing job c cut made 0 s)
    (hFind :
      (onCluster job settings).workload.find.Leads s
        outcome s') :
    (∃ message, outcome = .error (.notFound message)) ∧
      s'.system.jobs.get? job.target = none ∧
      Departing job c cut (made ++ [.getJob job.target])
        0 s' := by
  have hRecorded :=
    h.recorded (.getJob job.target) s.system.created
  rcases hRecorded.read_gone with ⟨hAbsent, hRead⟩
  rcases find_unhindered h.unhindered hFind with
    ⟨hAfter, hCancelled, hFound⟩
  have hEnd :
      s' =
        { system :=
            (s.system.heard (.getJob job.target)).read
              job.target
          cancelledAt := s.cancelledAt } :=
    Situation.ext hAfter hCancelled
  replace hAbsent :
      s'.system.jobs.get? job.target = none := by
    rw [hAfter]
    exact hAbsent
  refine ⟨?_, hAbsent, ?_⟩
  · rcases hFound with ⟨current, hGet, -⟩ | ⟨-, hMissing⟩
    · rw [hAbsent] at hGet
      cases hGet
    · exact hMissing
  · rw [hEnd]
    exact hRead

/- No job is created where a departing one is found. -/
theorem Departing.lingers_create
    {outcome : Except Failure Unit}
    (h : Departing job c cut made (left + 1) s)
    (hCreate :
      (onCluster job settings).workload.create.Leads s
        outcome s') :
    (∃ message, outcome = .error (.alreadyExists message)) ∧
      Departing job c cut (made ++ [.createJob job.target])
        left s' := by
  have hRecorded :=
    h.recorded (.createJob job.target)
      (s.system.created ++ [submission job])
  rcases hRecorded.read with ⟨hStored, -, hRead⟩
  rw [← submitted_eq] at hStored hRead
  rcases create_unhindered h.unhindered hCreate with
    ⟨hCancelled, ⟨-, hAfter, hExists⟩ | ⟨hAbsent, -⟩⟩
  · have hEnd :
        s' =
          { system := s.system.submitted (submission job)
            cancelledAt := s.cancelledAt } :=
      Situation.ext hAfter hCancelled
    rw [hEnd]
    exact ⟨hExists, hRead⟩
  · rw [hAbsent] at hStored
    cases hStored

/- A job is created in place of a departed one. -/
theorem Departing.gone_create
    {outcome : Except Failure Unit}
    (h : Departing job c cut made 0 s)
    (hCreate :
      (onCluster job settings).workload.create.Leads s
        outcome s') :
    outcome = .ok () ∧
      Created job c (made ++ [.createJob job.target]) s' := by
  have hRecorded :=
    h.recorded (.createJob job.target)
      (s.system.created ++ [submission job])
  rcases hRecorded.read_gone with ⟨hAbsent, hRead⟩
  rw [← submitted_eq] at hAbsent hRead
  rcases create_unhindered h.unhindered hCreate with
    ⟨-, ⟨hStored, -⟩ | ⟨-, hAfter, hOk⟩⟩
  · rw [Table.contains, hAbsent] at hStored
    cases hStored
  have hJobs := storeJob_submission_jobs hRead.agrees
  rw [← hAfter] at hJobs
  refine ⟨hOk, ?_⟩
  exact
    { unhindered := by
        rw [hAfter]
        exact hRead.unhindered
      stored := by
        rw [hJobs, Table.get?_insert_self]
      staying := by
        rw [hAfter]
        cases hRead.departs with
        | gone hStaying => exact hStaying
        | lingering _ hStored =>
            rw [Table.contains, hAbsent] at hStored
            cases hStored
      spares := by
        refine { jobs := ?_, terminating := ?_, nodes := ?_ }
        · intro key hKey
          rw [hJobs, Table.get?_insert, if_neg hKey]
          exact hRead.agrees.jobs key hKey
        · rw [hAfter]
          exact hRead.agrees.terminating
        · rw [hAfter]
          exact hRead.agrees.nodes
      pods := by
        rw [hAfter]
        exact hRead.agrees.pods
      calls := by
        rw [hAfter]
        exact hRead.calls }

end JobController

end Redeploy
