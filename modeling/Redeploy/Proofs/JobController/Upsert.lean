import Redeploy.Proofs.JobController.Stages

/-
  An upsert on a cluster in memory, from the first request to
  the last.

  Key definitions include:
    * `JobController.createAttempts`
    * `JobController.Replaces`
    * `JobController.Upserted`

  Main results:
    * `JobController.tries_create`
    * `JobController.upsert_on_cluster`

  A job that is deleted is found by as many creations as the
  cluster lags behind, so an upsert succeeds exactly if its
  policy allows for more attempts than that.
-/

------------------------------------------------------------
-- Creation
------------------------------------------------------------

namespace Redeploy

namespace JobController

variable {job : Job}
variable {settings : Settings}
variable {c : Cluster}
variable {before : List Call}
variable {s s' : Situation Cluster}

/- The calls of a number of attempts to create a job. -/
def creations
    (job : Job)
    (number : Nat) : List Call :=
  .replicate number (.createJob job.target)

theorem creations_succ
    (job : Job)
    (number : Nat) :
    creations job (number + 1) =
      creations job number ++ [.createJob job.target] :=
  List.replicate_succ'

/- Where a number of attempts have found a departing job. -/
def Blocked
    (job : Job)
    (c : Cluster)
    (before : List Call)
    (made left : Nat)
    (s : Situation Cluster) : Prop :=
  Departing job c none (before ++ creations job made) left s

/- Where the attempt has led that found it gone. -/
def Finished
    (job : Job)
    (c : Cluster)
    (before : List Call)
    (made : Nat)
    (s : Situation Cluster) : Prop :=
  Created job c (before ++ creations job made) s

theorem Blocked.lingers
    {made left : Nat}
    {outcome : Except Failure Unit}
    (h : Blocked job c before made (left + 1) s)
    (hCreate :
      (onCluster job settings).workload.create.Leads s
        outcome s') :
    ∃ e, outcome = .error e ∧
      (∃ message, e = .alreadyExists message) ∧
      true = true ∧ Blocked job c before (made + 1) left s' := by
  rcases h.lingers_create hCreate with
    ⟨⟨message, hError⟩, hNext⟩
  rw [List.append_assoc, ← creations_succ] at hNext
  exact ⟨_, hError, ⟨message, rfl⟩, rfl, hNext⟩

theorem Blocked.gone
    {made : Nat}
    {outcome : Except Failure Unit}
    (h : Blocked job c before made 0 s)
    (hCreate :
      (onCluster job settings).workload.create.Leads s
        outcome s') :
    outcome = .ok () ∧
      Finished job c before (made + 1) s' := by
  have hDone := h.gone_create hCreate
  rwa [List.append_assoc, ← creations_succ] at hDone

/- Attempts to create a job succeed exactly if there are more
   of them than find the departing one. -/
theorem tries_create
    {attempts left : Nat}
    {outcome : Except Failure Unit}
    (hAttempts : 0 < attempts)
    (hStart : Departing job c none before left s)
    (h : Retry.Tries (fun _ => true)
      (onCluster job settings).workload.create attempts s
      outcome s') :
    (left < attempts ∧ outcome = .ok () ∧
      Finished job c before (left + 1) s') ∨
    (attempts ≤ left ∧
      (∃ e, outcome = .error e ∧
        ∃ message, e = .alreadyExists message) ∧
      Blocked job c before attempts (left - attempts) s') := by
  have hFirst : Blocked job c before 0 left s := by
    change Departing job c none (before ++ []) left s
    rwa [List.append_nil]
  have hResult :=
    h.countdown (fun _ _ _ hStage => hStage.cancelledAt)
      (fun _ _ _ _ _ hStage => hStage.lingers)
      (fun _ _ _ _ hStage => hStage.gone)
      hAttempts hFirst
  rwa [Nat.zero_add, Nat.zero_add] at hResult

end JobController

end Redeploy

------------------------------------------------------------
-- Outcomes
------------------------------------------------------------

namespace Redeploy

namespace JobController

/- Whether a job stands in its place, to stay there, as the
   next one that a cluster has stored. -/
structure Stands
    (job : Job)
    (c c' : Cluster) : Prop where
  stored :
    ∃ stored, c'.jobs.get? job.target = some stored ∧
      job.Renews stored job.target.ns
        (c.uidOf (c.version + 1)) (toString (c.version + 1))
  staying : c'.terminating.get? job.target = none

/- What an upsert does where there is no job. -/
structure Fresh
    (job : Job)
    (c : Cluster)
    (outcome : Except Failure Unit)
    (c' : Cluster) : Prop where
  ok : outcome = .ok ()
  calls :
    c'.calls =
      c.calls ++
        [.getJob job.target, .createJob job.target]
  pods : c'.pods = c.pods

/- What an upsert does where there is an old job, with a
   number of attempts to create the new one.  The swept pods
   are the ones that it deletes. -/
structure Replaces
    (job old : Job)
    (attempts : Nat)
    (swept : List ObjectKey)
    (c : Cluster)
    (outcome : Except Failure Unit)
    (c' : Cluster) : Prop where
  calls :
    c'.calls =
      c.calls ++
        [.getJob job.target,
          .listPods job.target.ns old.podSelector,
          .deleteJob job.target none] ++
        .replicate (min (c.deletionLag + 1) attempts)
          (.createJob job.target) ++
        swept.map .deletePod
  ok_iff : outcome = .ok () ↔ c.deletionLag < attempts
  late :
    attempts ≤ c.deletionLag →
      (∃ message, outcome = .error (.alreadyExists message)) ∧
        c'.pods = c.pods
  nodup : swept.Nodup
  mem_swept :
    ∀ key, key ∈ swept ↔
      c.deletionLag < attempts ∧
        c.OwnsLast old job.target.ns key
  pods :
    ∀ key,
      c'.pods.get? key =
        if key ∈ swept then none else c.pods.get? key

/- What an upsert of a job does to a cluster. -/
structure Upserted
    (job : Job)
    (attempts : Nat)
    (c : Cluster)
    (outcome : Except Failure Unit)
    (c' : Cluster) : Prop where
  fresh :
    c.jobs.get? job.target = none →
      Fresh job c outcome c'
  replaces :
    ∀ old, c.jobs.get? job.target = some old →
      ∃ swept, Replaces job old attempts swept c outcome c'
  stands : outcome = .ok () → Stands job c c'
  spares : c.Spares job.target c'

end JobController

end Redeploy

------------------------------------------------------------
-- Upserts
------------------------------------------------------------

namespace Redeploy

namespace JobController

variable {job old : Job}
variable {settings : Settings}
variable {attempts : Nat}
variable {c c' : Cluster}
variable {s s' : Situation Cluster}
variable {outcome : Except Failure Unit}

/- A created job stands in its place, whatever becomes of
   pods afterwards. -/
theorem Created.stands
    {made : List Call}
    (h : Created job c made s)
    (hJobs : c'.jobs = s.system.jobs)
    (hTerminating : c'.terminating = s.system.terminating) :
    Stands job c c' where
  stored := by
    rw [hJobs]
    exact ⟨_, h.stored, renews_submission job _ _⟩
  staying := by
    rw [hTerminating]
    exact h.staying

/- Where there is no job, an upsert creates one. -/
theorem upserted_fresh
    (hAttempts : 0 < attempts)
    (hNever : s.cancelledAt = none)
    (hStart : Departing job s.system s.cancelledAt [] 0 s)
    (h : (onCluster job settings).workload.Upserts attempts s
      outcome s') :
    Fresh job s.system outcome s'.system ∧
      Stands job s.system s'.system ∧
      s.system.Spares job.target s'.system := by
  rw [hNever] at hStart
  have hMissing :
      ∀ found s₁,
        (onCluster job settings).workload.find.Leads s
          found s₁ →
        ∃ e, found = .error e ∧ e.isNotFound = true := by
    intro found s₁ hFind
    rcases hStart.gone_find hFind with ⟨⟨message, rfl⟩, -⟩
    exact ⟨_, rfl, rfl⟩
  rcases h.of_absent hMissing with ⟨e, s₁, hFind, hCreate⟩
  rcases hStart.gone_find hFind with ⟨-, -, hNext⟩
  rcases tries_create hAttempts hNext hCreate with
    ⟨-, rfl, hDone⟩ | ⟨hFew, -⟩
  · refine ⟨?_, hDone.stands rfl rfl, hDone.spares⟩
    exact
      { ok := rfl
        calls := hDone.calls
        pods := hDone.pods }
  · omega

/- The calls of a replacement up to the deletion that is
   accepted. -/
def beforeCreations
    (job old : Job) : List Call :=
  [.getJob job.target,
    .listPods job.target.ns old.podSelector,
    .deleteJob job.target none]

/- A job that is found by all attempts is not replaced. -/
private theorem replaces_late
    {e : Failure}
    (hFew : attempts ≤ c.deletionLag)
    (hError : ∃ message, e = .alreadyExists message)
    (hLate :
      Blocked job c (beforeCreations job old) attempts
        (c.deletionLag - attempts) s) :
    Replaces job old attempts [] c (.error e) s.system where
  calls := by
    rw [hLate.calls, Nat.min_eq_right (by omega)]
    simp [creations, beforeCreations]
  ok_iff := by
    simp only [reduceCtorEq, false_iff]
    omega
  late := by
    rcases hError with ⟨message, rfl⟩
    exact fun _ => ⟨⟨message, rfl⟩, hLate.agrees.pods⟩
  nodup := List.nodup_nil
  mem_swept := by
    intro key
    simp only [List.not_mem_nil, false_iff]
    omega
  pods := by
    intro key
    rw [hLate.agrees.pods]
    rfl

/- A job that is seen to be gone is replaced, and its pods are
   deleted. -/
private theorem replaces_swept
    (hMore : c.deletionLag < attempts)
    (hSound : c.Sound)
    (hDone :
      Finished job c (beforeCreations job old)
        (c.deletionLag + 1) s)
    (hSweep :
      NodePods.Sweeps Cluster.client job.target.ns
        (c.collected old job.target.ns).values s
        outcome s') :
    Replaces job old attempts (c.stale old job.target.ns) c
        outcome s'.system ∧
      Stands job c s'.system ∧
      c.Spares job.target s'.system := by
  rcases hSweep.unhindered hDone.unhindered with
    ⟨rfl, hPods, hCalls, hJobs, hTerminating, hNodes⟩
  refine ⟨?_, hDone.stands hJobs hTerminating, ?_⟩
  · exact
      { calls := by
          rw [hCalls, hDone.calls, Nat.min_eq_left (by omega)]
          simp [creations, beforeCreations, Cluster.stale]
        ok_iff := by
          simp only [true_iff]
          exact hMore
        late := by omega
        nodup := Cluster.nodup_stale hSound.pod_key
        mem_swept := by
          intro key
          rw [Cluster.mem_stale_iff hSound.pod_key]
          simp [hMore]
        pods := by
          intro key
          rw [hPods, Table.get?_eraseAll, hDone.pods]
          rfl }
  · exact
      { jobs := by
          rw [hJobs]
          exact hDone.spares.jobs
        terminating := by
          rw [hTerminating]
          exact hDone.spares.terminating
        nodes := hNodes.trans hDone.spares.nodes }

/- Where there is an old job that stays, an upsert replaces
   it or runs out of attempts. -/
theorem upserted_replaces
    (hAttempts : 0 < attempts)
    (hNever : s.cancelledAt = none)
    (hSound : s.system.Sound)
    (hStart : Standing job old s.system s.cancelledAt [] s)
    (h : (onCluster job settings).workload.Upserts attempts s
      outcome s') :
    (∃ swept,
      Replaces job old attempts swept s.system outcome
        s'.system) ∧
      (outcome = .ok () → Stands job s.system s'.system) ∧
      s.system.Spares job.target s'.system := by
  rw [hNever] at hStart
  cases h with
  | unreadable hFind =>
      cases (hStart.find hFind).1
  | fresh hFind =>
      cases (hStart.find hFind).1
  | uncollected hFind hPods =>
      rcases hStart.find hFind with ⟨hOk, hFound⟩
      cases hOk
      cases (hFound.podsOf hPods).1
  | unremoved hFind hPods hRemove =>
      rcases hStart.find hFind with ⟨hOk, hFound⟩
      cases hOk
      rcases hFound.podsOf hPods with ⟨-, hListed⟩
      cases (hListed.remove hRemove).1
  | uncreated hFind hPods hRemove hCreate =>
      rcases hStart.find hFind with ⟨hOk, hFound⟩
      cases hOk
      rcases hFound.podsOf hPods with ⟨-, hListed⟩
      rcases hListed.remove hRemove with ⟨-, hRemoved⟩
      rcases tries_create hAttempts hRemoved hCreate with
        ⟨-, hOk, -⟩ | ⟨hFew, ⟨_, hError, hMessage⟩, hLate⟩
      · cases hOk
      · cases hError
        have hReplaces := replaces_late hFew hMessage hLate
        refine ⟨⟨[], hReplaces⟩, ?_, hLate.agrees.toSpares⟩
        intro hOk
        cases hOk
  | replaced hFind hPods hRemove hCreate hSweep =>
      rcases hStart.find hFind with ⟨hOk, hFound⟩
      cases hOk
      rcases hFound.podsOf hPods with ⟨hCollected, hListed⟩
      cases hCollected
      rcases hListed.remove hRemove with ⟨-, hRemoved⟩
      rcases tries_create hAttempts hRemoved hCreate with
        ⟨hMore, -, hDone⟩ | ⟨-, ⟨_, hError, -⟩, -⟩
      · rw [workload_onCluster_ns] at hSweep
        rcases replaces_swept hMore hSound hDone hSweep with
          ⟨hReplaces, hStands, hSpares⟩
        exact ⟨⟨_, hReplaces⟩, fun _ => hStands, hSpares⟩
      · cases hError

/-
  An upsert of a named job on a cluster that comes from
  setups and requests, where no failure is scripted, the job
  is not terminating and nothing is cancelled.
-/
theorem upsert_on_cluster
    (settings : Settings)
    (w : World Cluster)
    (hName : job.metadata.nameText ≠ "")
    (hReachable : w.system.Reachable)
    (hFree : w.system.Unhindered)
    (hStaying : w.system.terminating.get? job.target = none)
    (hNever : w.cancelledAt = none) :
    ∃ controller,
      ofJob job (some Cluster.client) settings =
        .ok controller ∧
      Upserted job (createAttempts settings) w.system
        (controller.upsert.run w).1
        (controller.upsert.run w).2.system := by
  refine ⟨_, ofJob_eq_onCluster hName settings, ?_⟩
  have hAttempts := createAttempts_pos settings
  have hUpserts := upsert_leads job settings w
  cases hGet : w.system.jobs.get? job.target with
  | none =>
      rcases upserted_fresh hAttempts hNever
          (.start hFree hStaying hGet) hUpserts with
        ⟨hFresh, hStands, hSpares⟩
      exact
        { fresh := fun _ => hFresh
          replaces := by
            intro old hOld
            rw [hGet] at hOld
            cases hOld
          stands := fun _ => hStands
          spares := hSpares }
  | some old =>
      rcases upserted_replaces hAttempts hNever
          hReachable.sound (.start hFree hStaying hGet)
          hUpserts with
        ⟨hReplaces, hStands, hSpares⟩
      exact
        { fresh := by
            intro hAbsent
            rw [hGet] at hAbsent
            cases hAbsent
          replaces := by
            intro old' hOld
            rw [hGet] at hOld
            cases hOld
            exact hReplaces
          stands := hStands
          spares := hSpares }

/- A job is replaced where its deletion lags by one read. -/
theorem upsert_lagging :
    Sample.job.metadata.nameText ≠ "" ∧
      Sample.lagging.system.Reachable ∧
      Sample.lagging.system.Unhindered ∧
      Sample.lagging.system.terminating.get?
        Sample.job.target = none ∧
      Sample.lagging.cancelledAt = none ∧
      ∃ controller,
        ofJob Sample.job (some Cluster.client) {} =
          .ok controller ∧
        Upserted Sample.job 8 Sample.lagging.system
          (controller.upsert.run Sample.lagging).1
          (controller.upsert.run Sample.lagging).2.system := by
  have hName : Sample.job.metadata.nameText ≠ "" := by decide
  have hReachable : Sample.lagging.system.Reachable :=
    Sample.reachable_world _
  exact ⟨hName, hReachable, Sample.unhindered_lagging,
    rfl, rfl,
    upsert_on_cluster {} Sample.lagging hName
      hReachable Sample.unhindered_lagging rfl rfl⟩

end JobController

end Redeploy
