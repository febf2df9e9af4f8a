import Redeploy.Proofs.JobController.Stages

/-
  A deletion on a cluster in memory, from the first request
  to the last.

  Key definitions include:
    * `JobController.deleteAttempts`
    * `JobController.Removes`
    * `JobController.Deleted`

  Main results:
    * `JobController.tries_absent`
    * `JobController.delete_on_cluster`

  A job that is deleted is found by as many looks as the
  cluster lags behind, so a deletion succeeds exactly if its
  policy allows for more looks than that.
-/

------------------------------------------------------------
-- Waiting
------------------------------------------------------------

namespace Redeploy

namespace JobController

variable {job : Job}
variable {settings : Settings}
variable {c : Cluster}
variable {before : List Call}
variable {s s' : Situation Cluster}

/- The calls of a number of looks at a job. -/
def looks
    (job : Job)
    (number : Nat) : List Call :=
  .replicate number (.getJob job.target)

theorem looks_succ
    (job : Job)
    (number : Nat) :
    looks job (number + 1) =
      looks job number ++ [.getJob job.target] :=
  List.replicate_succ'

/- Where a number of looks have found a departing job. -/
def Found
    (job : Job)
    (c : Cluster)
    (before : List Call)
    (made left : Nat)
    (s : Situation Cluster) : Prop :=
  (0 < made →
    s.system.terminating.get? job.target = some left) ∧
  Departing job c none (before ++ looks job made) left s

/- Where the look has led that found it gone. -/
def Missed
    (job : Job)
    (c : Cluster)
    (before : List Call)
    (made : Nat)
    (s : Situation Cluster) : Prop :=
  s.system.jobs.get? job.target = none ∧
  Departing job c none (before ++ looks job made) 0 s

theorem Found.lingers
    {made left : Nat}
    {outcome : Except Failure Unit}
    (h : Found job c before made (left + 1) s)
    (hLook :
      (onCluster job settings).workload.absent.Leads s
        outcome s') :
    ∃ e, outcome = .error e ∧
      (∃ message, e = .compareFailed message) ∧
      e.isCompareFailed = true ∧
      Found job c before (made + 1) left s' := by
  rcases Workload.leads_absent hLook with ⟨found, hFind, rfl⟩
  rcases h.2.lingers_find hFind with
    ⟨⟨current, rfl⟩, hLeft, hNext⟩
  rw [List.append_assoc, ← looks_succ] at hNext
  exact ⟨_, rfl, ⟨_, rfl⟩, rfl, fun _ => hLeft, hNext⟩

theorem Found.gone
    {made : Nat}
    {outcome : Except Failure Unit}
    (h : Found job c before made 0 s)
    (hLook :
      (onCluster job settings).workload.absent.Leads s
        outcome s') :
    outcome = .ok () ∧ Missed job c before (made + 1) s' := by
  rcases Workload.leads_absent hLook with ⟨found, hFind, rfl⟩
  rcases h.2.gone_find hFind with
    ⟨⟨message, rfl⟩, hJobs, hNext⟩
  rw [List.append_assoc, ← looks_succ] at hNext
  exact ⟨rfl, hJobs, hNext⟩

/- Looks for the absence of a job succeed exactly if there
   are more of them than find the departing one. -/
theorem tries_absent
    {attempts left : Nat}
    {outcome : Except Failure Unit}
    (hAttempts : 0 < attempts)
    (hStart : Departing job c none before left s)
    (h : Retry.Tries Failure.isCompareFailed
      (onCluster job settings).workload.absent attempts s
      outcome s') :
    (left < attempts ∧ outcome = .ok () ∧
      Missed job c before (left + 1) s') ∨
    (attempts ≤ left ∧
      (∃ e, outcome = .error e ∧
        ∃ message, e = .compareFailed message) ∧
      Found job c before attempts (left - attempts) s') := by
  have hFirst : Found job c before 0 left s := by
    refine ⟨fun hMade => by omega, ?_⟩
    change Departing job c none (before ++ []) left s
    rwa [List.append_nil]
  have hResult :=
    h.countdown (fun _ _ _ hStage => hStage.2.cancelledAt)
      (fun _ _ _ _ _ hStage => hStage.lingers)
      (fun _ _ _ _ hStage => hStage.gone)
      hAttempts hFirst
  rwa [Nat.zero_add, Nat.zero_add] at hResult

end JobController

end Redeploy

------------------------------------------------------------
-- Outcomes
------------------------------------------------------------

namespace Redeploy

namespace JobController

/- The number of looks that settings allow a deletion. -/
def deleteAttempts
    (settings : Settings) : Nat :=
  if settings.deleteWait.attempts = 0 then 60
  else settings.deleteWait.attempts

/- What a deletion does where there is no job. -/
structure Misses
    (job : Job)
    (c : Cluster)
    (outcome : Except Failure Unit)
    (c' : Cluster) : Prop where
  missing :
    ∃ message, outcome = .error (.notFound message)
  calls : c'.calls = c.calls ++ [.getJob job.target]
  jobs : c'.jobs = c.jobs
  terminating : c'.terminating = c.terminating
  pods : c'.pods = c.pods
  nodes : c'.nodes = c.nodes

/- What a deletion does where there is a job, with a number
   of looks whether it is gone.  The swept pods are the ones
   that it deletes. -/
structure Removes
    (job old : Job)
    (cascade : Bool)
    (attempts : Nat)
    (swept : List ObjectKey)
    (c : Cluster)
    (outcome : Except Failure Unit)
    (c' : Cluster) : Prop where
  calls :
    c'.calls =
      c.calls ++
        .getJob job.target ::
          (if cascade then
            [.listPods job.target.ns old.podSelector]
          else []) ++
        [.deleteJob job.target (some .foreground)] ++
        .replicate (min (c.deletionLag + 1) attempts)
          (.getJob job.target) ++
        swept.map .deletePod
  ok_iff : outcome = .ok () ↔ c.deletionLag < attempts
  gone :
    c.deletionLag < attempts →
      c'.jobs.get? job.target = none ∧
        c'.terminating.get? job.target = none
  late :
    attempts ≤ c.deletionLag →
      (∃ message, outcome = .error (.compareFailed message)) ∧
        c'.terminating.get? job.target =
          some (c.deletionLag - attempts) ∧
        c'.pods = c.pods
  nodup : swept.Nodup
  mem_swept :
    ∀ key, key ∈ swept ↔
      cascade = true ∧ c.deletionLag < attempts ∧
        c.OwnsLast old job.target.ns key
  pods :
    ∀ key,
      c'.pods.get? key =
        if key ∈ swept then none else c.pods.get? key
  spares : c.Spares job.target c'

/- What the deletion of a job does to a cluster. -/
structure Deleted
    (job : Job)
    (cascade : Bool)
    (attempts : Nat)
    (c : Cluster)
    (outcome : Except Failure Unit)
    (c' : Cluster) : Prop where
  misses :
    c.jobs.get? job.target = none →
      Misses job c outcome c'
  removes :
    ∀ old, c.jobs.get? job.target = some old →
      ∃ swept,
        Removes job old cascade attempts swept c outcome c'

end JobController

end Redeploy

------------------------------------------------------------
-- Deletions
------------------------------------------------------------

namespace Redeploy

namespace JobController

variable {job old : Job}
variable {settings : Settings}
variable {cascade : Bool}
variable {attempts : Nat}
variable {c : Cluster}
variable {made : List Call}
variable {s s' : Situation Cluster}
variable {outcome : Except Failure Unit}

/- The pods that a deletion takes along. -/
def taken
    (job old : Job)
    (cascade : Bool)
    (c : Cluster) : NodePods :=
  if cascade then c.collected old job.target.ns else .empty

/- The calls that tell which pods to take along. -/
def listings
    (job old : Job)
    (cascade : Bool) : List Call :=
  if cascade then
    [.listPods job.target.ns old.podSelector]
  else []

theorem Standing.collects
    {cut : Option Nat}
    {outcome : Except Failure NodePods}
    (h : Standing job old c cut made s)
    (hPods :
      (onCluster job settings).workload.Collects old s cascade
        outcome s') :
    outcome = .ok (taken job old cascade c) ∧
      Standing job old c cut
        (made ++ listings job old cascade) s' := by
  cases hPods with
  | skipped =>
      refine ⟨rfl, ?_⟩
      change Standing job old c cut (made ++ []) s
      rwa [List.append_nil]
  | asked hPods => exact h.podsOf hPods

/- The keys under which the pods taken along are deleted. -/
def takenKeys
    (job old : Job)
    (cascade : Bool)
    (c : Cluster) : List ObjectKey :=
  (taken job old cascade c).values.map
    (·.keyIn job.target.ns)

theorem nodup_takenKeys
    (hSound : c.Sound) :
    (takenKeys job old cascade c).Nodup := by
  cases cascade with
  | false => exact List.nodup_nil
  | true => exact Cluster.nodup_stale hSound.pod_key

theorem mem_takenKeys_iff
    (hSound : c.Sound)
    {key : ObjectKey} :
    key ∈ takenKeys job old cascade c ↔
      cascade = true ∧ c.OwnsLast old job.target.ns key := by
  cases cascade with
  | false =>
      simp [takenKeys, taken, Table.values, Table.empty]
  | true =>
      have hStale :
          key ∈ c.stale old job.target.ns ↔
            c.OwnsLast old job.target.ns key :=
        Cluster.mem_stale_iff hSound.pod_key
      rw [← hStale]
      simp [takenKeys, taken, Cluster.stale]

/- Where there is no job, a deletion looks for one only. -/
private theorem deleted_misses
    (hStaying : s.system.terminating.get? job.target = none)
    (hFree : s.system.Unhindered)
    (hAbsent : s.system.jobs.get? job.target = none)
    (h : (onCluster job settings).workload.Deletes cascade
      attempts s outcome s') :
    Misses job s.system outcome s'.system := by
  have hMissing :
      ∀ found s₁,
        (onCluster job settings).workload.find.Leads s
          found s₁ →
        ∃ e, found = .error e := by
    intro found s₁ hFind
    rcases find_absent hFree hStaying hAbsent hFind with
      ⟨⟨message, hError⟩, -⟩
    exact ⟨_, hError⟩
  rcases h.of_missing hMissing with ⟨e, hFind, rfl⟩
  rcases find_absent hFree hStaying hAbsent hFind with
    ⟨⟨message, hError⟩, hAfter, -⟩
  cases hError
  rw [hAfter]
  exact
    { missing := ⟨message, rfl⟩
      calls := rfl
      jobs := rfl
      terminating := rfl
      pods := rfl
      nodes := rfl }

/- The calls of a deletion up to the one that is accepted. -/
def beforeLooks
    (job old : Job)
    (cascade : Bool) : List Call :=
  .getJob job.target :: listings job old cascade ++
    [.deleteJob job.target (some .foreground)]

/- A job that is found by all looks is not removed. -/
private theorem removes_late
    {e : Failure}
    (hAttempts : 0 < attempts)
    (hFew : attempts ≤ c.deletionLag)
    (hError : ∃ message, e = .compareFailed message)
    (hFound :
      Found job c (beforeLooks job old cascade) attempts
        (c.deletionLag - attempts) s) :
    Removes job old cascade attempts [] c (.error e)
      s.system := by
  rcases hFound with ⟨hLeft, hLate⟩
  rcases hError with ⟨message, rfl⟩
  exact
    { calls := by
        rw [hLate.calls, Nat.min_eq_right (by omega)]
        simp [looks, listings, beforeLooks]
      ok_iff := by
        simp only [reduceCtorEq, false_iff]
        omega
      gone := by omega
      late := fun _ =>
        ⟨⟨message, rfl⟩, hLeft hAttempts, hLate.agrees.pods⟩
      nodup := List.nodup_nil
      mem_swept := by
        intro key
        simp only [List.not_mem_nil, false_iff]
        omega
      pods := by
        intro key
        rw [hLate.agrees.pods]
        rfl
      spares := hLate.agrees.toSpares }

/- A job that is seen to be gone is removed, and so are the
   pods that are taken along. -/
private theorem removes_swept
    (hMore : c.deletionLag < attempts)
    (hSound : c.Sound)
    (hMissed :
      Missed job c (beforeLooks job old cascade)
        (c.deletionLag + 1) s)
    (hSweep :
      NodePods.Sweeps Cluster.client job.target.ns
        (taken job old cascade c).values s outcome s') :
    Removes job old cascade attempts
      (takenKeys job old cascade c) c outcome s'.system := by
  rcases hMissed with ⟨hAbsent, hDone⟩
  rcases hSweep.unhindered hDone.unhindered with
    ⟨rfl, hPods, hCalls, hJobs, hTerminating, hNodes⟩
  exact
    { calls := by
        rw [hCalls, hDone.calls, Nat.min_eq_left (by omega)]
        simp [looks, listings, beforeLooks, takenKeys]
      ok_iff := by
        simp only [true_iff]
        exact hMore
      gone := by
        intro _
        rw [hJobs, hTerminating]
        refine ⟨hAbsent, ?_⟩
        cases hDone.departs with
        | gone hStaying => exact hStaying
        | lingering _ hStored =>
            rw [Table.contains, hAbsent] at hStored
            cases hStored
      late := by omega
      nodup := nodup_takenKeys hSound
      mem_swept := by
        intro key
        rw [mem_takenKeys_iff hSound]
        simp [hMore]
      pods := by
        intro key
        rw [hPods, Table.get?_eraseAll, hDone.agrees.pods]
        rfl
      spares :=
        { jobs := by
            rw [hJobs]
            exact hDone.agrees.jobs
          terminating := by
            rw [hTerminating]
            exact hDone.agrees.terminating
          nodes := hNodes.trans hDone.agrees.nodes } }

/- Where there is a job that stays, a deletion removes it or
   gives up on it. -/
private theorem deleted_removes
    (hAttempts : 0 < attempts)
    (hNever : s.cancelledAt = none)
    (hSound : s.system.Sound)
    (hStart : Standing job old s.system s.cancelledAt [] s)
    (h : (onCluster job settings).workload.Deletes cascade
      attempts s outcome s') :
    ∃ swept,
      Removes job old cascade attempts swept s.system
        outcome s'.system := by
  rw [hNever] at hStart
  cases h with
  | unfound hFind =>
      cases (hStart.find hFind).1
  | uncollected hFind hPods =>
      rcases hStart.find hFind with ⟨hOk, hFound⟩
      cases hOk
      cases (hFound.collects hPods).1
  | unremoved hFind hPods hRemove =>
      rcases hStart.find hFind with ⟨hOk, hFound⟩
      cases hOk
      rcases hFound.collects hPods with ⟨-, hListed⟩
      cases (hListed.remove hRemove).1
  | lingering hFind hPods hRemove hWait =>
      rcases hStart.find hFind with ⟨hOk, hFound⟩
      cases hOk
      rcases hFound.collects hPods with ⟨-, hListed⟩
      rcases hListed.remove hRemove with ⟨-, hRemoved⟩
      rcases tries_absent hAttempts hRemoved hWait with
        ⟨-, hOk, -⟩ | ⟨hFew, ⟨_, hError, hMessage⟩, hFound⟩
      · cases hOk
      · cases hError
        exact ⟨[],
          removes_late hAttempts hFew hMessage hFound⟩
  | gone hFind hPods hRemove hWait hSweep =>
      rcases hStart.find hFind with ⟨hOk, hFound⟩
      cases hOk
      rcases hFound.collects hPods with ⟨hTaken, hListed⟩
      cases hTaken
      rcases hListed.remove hRemove with ⟨-, hRemoved⟩
      rcases tries_absent hAttempts hRemoved hWait with
        ⟨hMore, -, hMissed⟩ | ⟨-, ⟨_, hError, -⟩, -⟩
      · rw [workload_onCluster_ns] at hSweep
        exact ⟨_, removes_swept hMore hSound hMissed hSweep⟩
      · cases hError

/-
  The deletion of a named job on a cluster that comes from
  setups and requests, where no failure is scripted, the job
  is not terminating and nothing is cancelled.
-/
theorem delete_on_cluster
    (settings : Settings)
    (cascade : Bool)
    (w : World Cluster)
    (hName : job.metadata.nameText ≠ "")
    (hReachable : w.system.Reachable)
    (hFree : w.system.Unhindered)
    (hStaying : w.system.terminating.get? job.target = none)
    (hNever : w.cancelledAt = none) :
    ∃ controller,
      ofJob job (some Cluster.client) settings =
        .ok controller ∧
      Deleted job cascade (deleteAttempts settings) w.system
        ((controller.delete cascade).run w).1
        ((controller.delete cascade).run w).2.system := by
  refine ⟨_, ofJob_eq_onCluster hName settings, ?_⟩
  have hRun :=
    Act.leads_run ((onCluster job settings).delete cascade) w
  have hDeletes :
      (onCluster job settings).workload.Deletes cascade
        (deleteAttempts settings) w.situation _ _ :=
    Workload.leads_delete hRun.within
  have hAttempts : 0 < deleteAttempts settings := by
    unfold deleteAttempts
    split <;> omega
  constructor
  · intro hAbsent
    exact deleted_misses hStaying hFree hAbsent hDeletes
  · intro old hOld
    exact deleted_removes hAttempts hNever hReachable.sound
      (.start hFree hStaying hOld) hDeletes

/- A job is deleted, and its pods with it, where its deletion
   lags by one read. -/
theorem delete_lagging :
    Sample.job.metadata.nameText ≠ "" ∧
      Sample.lagging.system.Reachable ∧
      Sample.lagging.system.Unhindered ∧
      Sample.lagging.system.terminating.get?
        Sample.job.target = none ∧
      Sample.lagging.cancelledAt = none ∧
      ∃ controller,
        ofJob Sample.job (some Cluster.client) {} =
          .ok controller ∧
        Deleted Sample.job true 60 Sample.lagging.system
          ((controller.delete true).run Sample.lagging).1
          ((controller.delete true).run
            Sample.lagging).2.system := by
  have hName : Sample.job.metadata.nameText ≠ "" := by decide
  have hReachable : Sample.lagging.system.Reachable :=
    Sample.reachable_world _
  exact ⟨hName, hReachable, Sample.unhindered_lagging,
    rfl, rfl,
    delete_on_cluster {} true Sample.lagging hName
      hReachable Sample.unhindered_lagging rfl rfl⟩

end JobController

end Redeploy
