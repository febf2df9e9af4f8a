import Redeploy.Proofs.JobController.Hindered
import Redeploy.Proofs.JobController.Stages

/-
  An upsert that fails on a cluster in memory, and the one
  that is run after it.

  Key definitions include:
    * `JobController.Aftermath`
    * `JobController.Rerun`

  Main results:
    * `JobController.aftermath`
    * `JobController.rerun_pods`

  The pods of the old job are known to the first run alone.
  The second run deletes them if it finds the old job in its
  place, and none of them otherwise.
-/

------------------------------------------------------------
-- The First Run
------------------------------------------------------------

namespace Redeploy

namespace JobController

variable {job old : Job}
variable {settings : Settings}
variable {attempts : Nat}
variable {s s' : Situation Cluster}

/- All attempts to create a job fail where one stays. -/
theorem tries_staying
    {outcome : Except Failure Unit}
    (hAttempts : 0 < attempts)
    (hStaying : s.system.terminating.get? job.target = none)
    (hStored : s.system.jobs.contains job.target = true)
    (h : Retry.Tries (fun _ => true)
      (onCluster job settings).workload.create attempts s
      outcome s') :
    s.system.SameStores s'.system := by
  have hCreate
      {t t' : Situation Cluster}
      {outcome : Except Failure Unit}
      (hSame : s.system.SameStores t.system)
      (hCall :
        (onCluster job settings).workload.create.Leads t
          outcome t') :
      (∃ e, outcome = .error e) ∧
        s.system.SameStores t'.system := by
    rw [← hSame.terminating] at hStaying
    rw [← hSame.jobs] at hStored
    rcases create_staying hStaying hStored hCall with
      ⟨hError, hNext⟩
    exact ⟨hError, hSame.trans hNext⟩
  rcases h.invariant
      (fun _ _ _ hSame hCall => (hCreate hSame hCall).2)
      hAttempts (.refl _) with
    ⟨_, -, hSame⟩ | ⟨-, t, hSame, hCall⟩
  · exact hSame
  · exact (hCreate hSame hCall).2

/- Where attempts to create a job have led that came too
   early. -/
def Early
    (job : Job)
    (c : Cluster)
    (s : Situation Cluster) : Prop :=
  ∃ left, s.system.Departs job.target left ∧
    c.AgreesBeside job.target s.system

/- Attempts to create a job where one departs let it depart
   or come after it. -/
theorem tries_departing
    {c : Cluster}
    {left : Nat}
    {outcome : Except Failure Unit}
    (hAttempts : 0 < attempts)
    (hDeparts : s.system.Departs job.target left)
    (hAgrees : c.AgreesBeside job.target s.system)
    (h : Retry.Tries (fun _ => true)
      (onCluster job settings).workload.create attempts s
      outcome s') :
    (∃ e left', outcome = .error e ∧
      s'.system.Departs job.target left' ∧
      c.AgreesBeside job.target s'.system) ∨
    (outcome = .ok () ∧
      s'.system.terminating.get? job.target = none ∧
      s'.system.jobs.get? job.target =
        some (Cluster.versioned (c.uidOf (c.version + 1))
          (c.version + 1) (submission job)) ∧
      s'.system.pods = c.pods) := by
  have hKeeps :
      ∀ t e t', Early job c t →
        (onCluster job settings).workload.create.Leads t
          (.error e) t' →
        Early job c t' := by
    rintro t e t' ⟨left, hDeparts, hAgrees⟩ hCall
    rcases create_departing hDeparts hAgrees hCall with
      ⟨_, left', -, hNext⟩ | ⟨hOk, -⟩
    · exact ⟨left', hNext⟩
    · cases hOk
  rcases h.invariant hKeeps hAttempts
      ⟨left, hDeparts, hAgrees⟩ with
    ⟨e, rfl, left', hNext⟩ |
      ⟨rfl, t, ⟨_, hDeparts, hAgrees⟩, hCall⟩
  · exact .inl ⟨e, left', rfl, hNext⟩
  · rcases create_departing hDeparts hAgrees hCall with
      ⟨_, _, hError, -⟩ | ⟨-, hDone⟩
    · cases hError
    · exact .inr ⟨rfl, hDone⟩

/- Where an upsert that failed has left a job that stayed. -/
inductive Aftermath
    (job : Job)
    (c c' : Cluster) : Prop where
  /- The job is still there, and so are its pods. -/
  | kept
      (hSame : c.SameStores c')
  /- The job is on its way out, but its pods are not. -/
  | departing
      {left : Nat}
      (hDeparts : c'.Departs job.target left)
      (hPods : c'.pods = c.pods)
  /- The job has been replaced, but some pods were left. -/
  | renewed
      (hStaying : c'.terminating.get? job.target = none)
      (hStored :
        c'.jobs.get? job.target =
          some (Cluster.versioned (c.uidOf (c.version + 1))
            (c.version + 1) (submission job)))
      (hPods :
        ∀ key pod, c'.pods.get? key = some pod →
          c.pods.get? key = some pod)

/- Whatever failures are scripted, and whenever all is
   cancelled, an upsert that fails has one of three ends. -/
theorem aftermath
    {e : Failure}
    (hAttempts : 0 < attempts)
    (hStaying : s.system.terminating.get? job.target = none)
    (hOld : s.system.jobs.get? job.target = some old)
    (h : (onCluster job settings).workload.Upserts attempts s
      (.error e) s') :
    Aftermath job s.system s'.system := by
  cases h with
  | unreadable hFind _ =>
      exact .kept (find_same hStaying hFind).1
  | fresh hFind _ hCreate =>
      have hFound := (find_same hStaying hFind).1
      have hStored :
          s.system.jobs.contains job.target = true :=
        Table.contains_iff.mpr ⟨old, hOld⟩
      rw [← hFound.terminating] at hStaying
      rw [← hFound.jobs] at hStored
      exact .kept (hFound.trans
        (tries_staying hAttempts hStaying hStored hCreate))
  | uncollected hFind hPods =>
      exact .kept ((find_same hStaying hFind).1.trans
        (podsOf_same hPods))
  | unremoved hFind hPods hRemove =>
      have hListed :=
        (find_same hStaying hFind).1.trans (podsOf_same hPods)
      rcases remove_same hRemove with
        ⟨_, -, hRefused⟩ | ⟨hOk, -⟩
      · exact .kept (hListed.trans hRefused)
      · cases hOk
  | uncreated hFind hPods hRemove hCreate =>
      have hListed :=
        (find_same hStaying hFind).1.trans (podsOf_same hPods)
      rcases remove_same hRemove with
        ⟨_, hError, -⟩ | ⟨-, -, hDeparts, hAgrees⟩
      · cases hError
      rcases tries_departing hAttempts hDeparts hAgrees
          hCreate with
        ⟨_, _, -, hLate, hBeside⟩ | ⟨hOk, -⟩
      · exact .departing hLate
          (hBeside.pods.trans hListed.pods)
      · cases hOk
  | replaced hFind hPods hRemove hCreate hSweep =>
      have hListed :=
        (find_same hStaying hFind).1.trans (podsOf_same hPods)
      rcases remove_same hRemove with
        ⟨_, hError, -⟩ | ⟨-, -, hDeparts, hAgrees⟩
      · cases hError
      rcases tries_departing hAttempts hDeparts hAgrees
          hCreate with
        ⟨_, _, hError, -⟩ | ⟨-, hFree, hStored, hPodsKept⟩
      · cases hError
      rcases sweeps_subset hSweep with
        ⟨hJobs, hTerminating, hSubset⟩
      rw [hListed.uidOf, hListed.version] at hStored
      refine .renewed ?_ ?_ ?_
      · rw [hTerminating]
        exact hFree
      · rw [hJobs]
        exact hStored
      · intro key pod hGet
        rw [← hListed.pods, ← hPodsKept]
        exact hSubset key pod hGet

end JobController

end Redeploy

------------------------------------------------------------
-- The Second Run
------------------------------------------------------------

namespace Redeploy

namespace JobController

variable {job old : Job}
variable {settings : Settings}
variable {attempts : Nat}
variable {c c' : Cluster}
variable {s s' : Situation Cluster}

/- Where a job departs, after some calls. -/
def Underway
    (job : Job)
    (c : Cluster)
    (s : Situation Cluster) : Prop :=
  ∃ cut made left, Departing job c cut made left s

/- Where attempts to create a job in place of a departing one
   have succeeded, the job was created by the last one. -/
theorem tries_created
    {cut : Option Nat}
    {made : List Call}
    {left : Nat}
    (hAttempts : 0 < attempts)
    (hStart : Departing job c cut made left s)
    (h : Retry.Tries (fun _ => true)
      (onCluster job settings).workload.create attempts s
      (.ok ()) s') :
    ∃ made', Created job c made' s' := by
  have hKeeps :
      ∀ t e t', Underway job c t →
        (onCluster job settings).workload.create.Leads t
          (.error e) t' →
        Underway job c t' := by
    rintro t e t' ⟨cut, made, left, hStage⟩ hCall
    cases left with
    | zero => cases (hStage.gone_create hCall).1
    | succ left =>
        exact ⟨_, _, left, (hStage.lingers_create hCall).2⟩
  rcases h.invariant hKeeps hAttempts ⟨_, _, _, hStart⟩ with
    ⟨_, hError, -⟩ | ⟨-, t, ⟨_, _, left', hStage⟩, hCall⟩
  · cases hError
  · cases left' with
    | zero => exact ⟨_, (hStage.gone_create hCall).2⟩
    | succ left =>
        rcases (hStage.lingers_create hCall).1 with
          ⟨_, hError⟩
        cases hError

/- Whether an upsert, with other outcomes scripted that are
   no failures, can succeed on a cluster and leave another
   one. -/
def Succeeds
    (job : Job)
    (settings : Settings)
    (c c' : Cluster) : Prop :=
  ∃ script cancelledAt s',
    Cluster.Unhindered { c with script } ∧
      (onCluster job settings).workload.Upserts
        (createAttempts settings)
        { system := { c with script }, cancelledAt }
        (.ok ()) s' ∧
      s'.system = c'

/- An upsert that finds a job in its place, and succeeds, has
   deleted the pods collected of that job. -/
theorem succeeds_standing
    (hStaying : c.terminating.get? job.target = none)
    (hStored : c.jobs.get? job.target = some old)
    (h : Succeeds job settings c c') :
    c'.pods =
      c.pods.eraseAll (c.stale old job.target.ns) := by
  rcases h with
    ⟨script, cancelledAt, s', hFree, hUpserts, rfl⟩
  have hAttempts := createAttempts_pos settings
  have hStart :
      Standing job old { c with script } cancelledAt []
        { system := { c with script }, cancelledAt } :=
    { cancelledAt := rfl
      unhindered := hFree
      staying := hStaying
      stored := hStored
      agrees := .refl _ _
      calls := (List.append_nil _).symm }
  cases hUpserts with
  | fresh hFind =>
      cases (hStart.find hFind).1
  | replaced hFind hPods hRemove hCreate hSweep =>
      rcases hStart.find hFind with ⟨hOk, hFound⟩
      cases hOk
      rcases hFound.podsOf hPods with ⟨hCollected, hListed⟩
      cases hCollected
      rcases hListed.remove hRemove with ⟨-, hRemoved⟩
      rcases tries_created hAttempts hRemoved hCreate with
        ⟨_, hDone⟩
      rw [workload_onCluster_ns] at hSweep
      rw [(hSweep.unhindered hDone.unhindered).2.1,
        hDone.pods]
      rfl

/- An upsert that finds a job on its way out, or none, and
   succeeds, has deleted no pods. -/
theorem succeeds_departing
    {left : Nat}
    (hDeparts : c.Departs job.target left)
    (h : Succeeds job settings c c') :
    c'.pods = c.pods := by
  rcases h with
    ⟨script, cancelledAt, s', hFree, hUpserts, rfl⟩
  have hAttempts := createAttempts_pos settings
  have hStart :
      Departing job { c with script } cancelledAt [] left
        { system := { c with script }, cancelledAt } :=
    { cancelledAt := rfl
      unhindered := hFree
      departs := hDeparts.congr rfl rfl
      agrees := .refl _ _
      calls := (List.append_nil _).symm }
  cases left with
  | zero =>
      have hMissing :
          ∀ found s₁,
            (onCluster job settings).workload.find.Leads
              { system := { c with script }, cancelledAt }
              found s₁ →
            ∃ e, found = .error e ∧ e.isNotFound = true := by
        intro found s₁ hFind
        rcases hStart.gone_find hFind with
          ⟨⟨message, rfl⟩, -⟩
        exact ⟨_, rfl, rfl⟩
      rcases hUpserts.of_absent hMissing with
        ⟨e, s₁, hFind, hCreate⟩
      rcases hStart.gone_find hFind with ⟨-, -, hNext⟩
      rcases tries_created hAttempts hNext hCreate with
        ⟨_, hDone⟩
      exact hDone.pods
  | succ left =>
      cases hUpserts with
      | fresh hFind =>
          rcases (hStart.lingers_find hFind).1 with
            ⟨_, hFound⟩
          cases hFound
      | replaced hFind hPods hRemove _ _ =>
          rcases hStart.lingers_find hFind with ⟨-, hLeft, -⟩
          rw [← (podsOf_same hPods).terminating] at hLeft
          rcases remove_same hRemove with
            ⟨_, hError, -⟩ | ⟨-, hStaying, -⟩
          · cases hError
          · rw [hStaying] at hLeft
            cases hLeft

end JobController

end Redeploy

------------------------------------------------------------
-- Both Runs
------------------------------------------------------------

namespace Redeploy

namespace JobController

/-
  Two upserts by one controller.  The first one, under some
  failures and perhaps a cancellation, fails and leaves the
  cluster `c₁`; the second one, under no failures, succeeds
  and leaves the cluster `c₂`.  Before them an old job was in
  its place, whose pods were on different nodes.
-/
structure Rerun
    (job old : Job)
    (controller : JobController Cluster)
    (c c₁ c₂ : Cluster) : Prop where
  controls :
    ∃ settings,
      ofJob job (some Cluster.client) settings =
        .ok controller
  reachable : c.Reachable
  staying : c.terminating.get? job.target = none
  stored : c.jobs.get? job.target = some old
  distinct :
    ∀ key key' pod pod',
      c.Owns old job.target.ns key pod →
      c.Owns old job.target.ns key' pod' →
      pod.nodeName = pod'.nodeName → key = key'
  failed :
    ∃ w e, w.system = c ∧
      (controller.upsert.run w).1 = .error e ∧
      (controller.upsert.run w).2.system = c₁
  succeeded :
    ∃ w script, w.system = { c₁ with script } ∧
      w.system.Unhindered ∧
      (controller.upsert.run w).1 = .ok () ∧
      (controller.upsert.run w).2.system = c₂

/- Whether a job is still in its place, so that no deletion
   of it has been accepted. -/
def Keeps
    (job old : Job)
    (c : Cluster) : Prop :=
  c.jobs.get? job.target = some old ∧
    c.terminating.get? job.target = none

variable {job old : Job}
variable {controller : JobController Cluster}
variable {c c₁ c₂ : Cluster}

/- Where pods are on different nodes, all that are owned are
   deleted. -/
theorem not_owns_eraseAll
    (hKeys :
      ∀ key pod, c.pods.get? key = some pod →
        pod.key = key)
    (hDistinct :
      ∀ key key' pod pod',
        c.Owns old job.target.ns key pod →
        c.Owns old job.target.ns key' pod' →
        pod.nodeName = pod'.nodeName → key = key')
    (hPods :
      c₂.pods = c.pods.eraseAll (c.stale old job.target.ns))
    (key : ObjectKey)
    (pod : Pod) :
    ¬ c₂.Owns old job.target.ns key pod := by
  intro hOwns
  have hStored := hOwns.stored
  rw [hPods, Table.get?_eraseAll] at hStored
  split at hStored
  · cases hStored
  next hKept =>
    apply hKept
    rw [Cluster.mem_stale_iff hKeys]
    have hOwns₀ := hOwns.congr hStored
    refine ⟨pod, hOwns₀, ?_⟩
    intro key' pod' hOwns' hNode
    have hSame : key' = key :=
      hDistinct _ _ _ _ hOwns' hOwns₀ hNode
    subst hSame
    exact Std.le_refl _

/- The pods of a job are not those of another one. -/
theorem owns_eraseAll_iff
    {new : Job}
    (hKeys :
      ∀ key pod, c.pods.get? key = some pod →
        pod.key = key)
    (hUids : old.metadata.uid ≠ new.metadata.uid)
    (hPods :
      c₂.pods = c.pods.eraseAll (c.stale new job.target.ns))
    (key : ObjectKey)
    (pod : Pod) :
    c₂.Owns old job.target.ns key pod ↔
      c.Owns old job.target.ns key pod := by
  constructor
  · intro hOwns
    have hStored := hOwns.stored
    rw [hPods, Table.get?_eraseAll] at hStored
    split at hStored
    · cases hStored
    · exact hOwns.congr hStored
  · intro hOwns
    apply hOwns.congr
    rw [hPods, Table.get?_eraseAll, if_neg, hOwns.stored]
    rw [Cluster.mem_stale_iff hKeys]
    rintro ⟨pod', hOwns', -⟩
    have hStored := hOwns'.stored
    rw [hOwns.stored] at hStored
    cases hStored
    exact hUids (hOwns.created.uid_eq hOwns'.created)

/- How the first run ended, and what the second one did. -/
theorem Rerun.runs
    (h : Rerun job old controller c c₁ c₂) :
    Aftermath job c c₁ ∧
      ∃ settings, Succeeds job settings c₁ c₂ := by
  rcases h.controls with ⟨settings, hControls⟩
  cases eq_onCluster hControls
  constructor
  · rcases h.failed with ⟨w, e, rfl, hError, rfl⟩
    have hUpserts := upsert_leads job settings w
    rw [hError] at hUpserts
    exact aftermath (createAttempts_pos settings) h.staying
      h.stored hUpserts
  · rcases h.succeeded with
      ⟨w, script, hSystem, hFree, hOk, rfl⟩
    have hUpserts := upsert_leads job settings w
    have hStart :
        w.situation =
          { system := { c₁ with script }
            cancelledAt := w.cancelledAt } := by
      rw [World.situation, hSystem]
    rw [hOk, hStart] at hUpserts
    rw [hSystem] at hFree
    exact ⟨settings, script, _, _, hFree, hUpserts, rfl⟩

/-
  If the first run stopped before the deletion of the old job
  was accepted, the second one leaves none of its pods.
  Otherwise it leaves all of them that the first one left, as
  long as the next uid is not the one of the old job.
-/
theorem rerun_pods
    (h : Rerun job old controller c c₁ c₂) :
    (Keeps job old c₁ →
      ∀ key pod, ¬ c₂.Owns old job.target.ns key pod) ∧
    (¬ Keeps job old c₁ →
      old.metadata.uid ≠ some (c.uidOf (c.version + 1)) →
      ∀ key pod,
        c₂.Owns old job.target.ns key pod ↔
          c₁.Owns old job.target.ns key pod) := by
  have hSound := h.reachable.sound
  rcases h.runs with
    ⟨hAftermath, settings, hSecond⟩
  cases hAftermath with
  | kept hSame =>
      have hStaying :
          c₁.terminating.get? job.target = none := by
        rw [hSame.terminating]
        exact h.staying
      have hStored :
          c₁.jobs.get? job.target = some old := by
        rw [hSame.jobs]
        exact h.stored
      have hErased :
          c₂.pods =
            c₁.pods.eraseAll (c₁.stale old job.target.ns) :=
        succeeds_standing hStaying hStored hSecond
      have hKeys :
          ∀ key pod, c₁.pods.get? key = some pod →
            pod.key = key := by
        rw [hSame.pods]
        exact hSound.pod_key
      constructor
      · intro _
        apply not_owns_eraseAll hKeys _ hErased
        intro key key' pod pod' hPod hPod'
        rw [Cluster.owns_congr hSame.pods] at hPod hPod'
        exact h.distinct key key' pod pod' hPod hPod'
      · intro hGone
        exact absurd ⟨hStored, hStaying⟩ hGone
  | departing hDeparts =>
      have hPods : c₂.pods = c₁.pods :=
        succeeds_departing hDeparts hSecond
      constructor
      · rintro ⟨hStored, hStaying⟩
        cases hDeparts with
        | lingering hLeft =>
            rw [hStaying] at hLeft
            cases hLeft
        | gone _ hAbsent =>
            rw [hStored] at hAbsent
            cases hAbsent
      · intro _ _ key pod
        exact Cluster.owns_congr hPods
  | renewed hStaying hStored hSubset =>
      have hErased :=
        succeeds_standing hStaying hStored hSecond
      have hKeys :
          ∀ key pod, c₁.pods.get? key = some pod →
            pod.key = key := by
        intro key pod hPod
        exact hSound.pod_key key pod (hSubset key pod hPod)
      constructor
      · rintro ⟨hOld, -⟩
        rw [hStored] at hOld
        cases hOld
        exact absurd rfl (hSound.fresh_version h.stored)
      · intro _ hUids
        exact owns_eraseAll_iff hKeys hUids hErased

end JobController

namespace Sample

open JobController

/- Settings under which a creation is attempted once. -/
def once : Settings where
  createBackoff := { BackoffPolicy.create with attempts := 1 }

/- The job as it is stored at first. -/
def stored : Job :=
  Cluster.versioned "v" 1 job

/- A cluster that refuses one creation. -/
def refusing : World Cluster :=
  world [.queueFailure .createJob (.internal "down")]

/- Where an upsert leads that is refused. -/
def refused : Cluster :=
  ((onCluster job once).upsert.run refusing).2.system

/- The same cluster when it refuses nothing. -/
def willing : World Cluster where
  system := { refused with script := fun _ => [] }

/- Where the upsert leads that is run again. -/
def repeated : Cluster :=
  ((onCluster job once).upsert.run willing).2.system

/- The upsert that is refused deletes the job, and the one
   after it finds none. -/
theorem rerun_refused :
    Rerun job stored (onCluster job once) refusing.system
      refused repeated where
  controls := ⟨once, ofJob_eq_onCluster (by decide) once⟩
  reachable := reachable_world _
  staying := rfl
  stored := by decide +kernel
  distinct := by
    have hOnly
        {key : ObjectKey}
        {other : Pod}
        (hGet : refusing.system.pods.get? key = some other) :
        key = pod.key := by
      have hPods :
          refusing.system.pods =
            Table.empty.insert pod.key pod :=
        rfl
      rw [hPods, Table.get?_insert] at hGet
      split at hGet
      next hKey => exact hKey
      next => cases hGet
    intro key key' _ _ hOwns hOwns' _
    rw [hOnly hOwns.stored, hOnly hOwns'.stored]
  failed := by
    have hFails :
        ((onCluster job once).upsert.run
          refusing).1.toOption = none := by
      decide +kernel
    cases hOutcome :
        ((onCluster job once).upsert.run refusing).1 with
    | ok _ =>
        rw [hOutcome] at hFails
        cases hFails
    | error e => exact ⟨refusing, e, rfl, hOutcome, rfl⟩
  succeeded := by
    have hSucceeds :
        ((onCluster job once).upsert.run
          willing).1.toOption = some () := by
      decide +kernel
    cases hOutcome :
        ((onCluster job once).upsert.run willing).1 with
    | ok _ =>
        refine ⟨willing, fun _ => [], rfl, ?_, hOutcome, rfl⟩
        intro operation outcome hScripted
        cases hScripted
    | error e =>
        rw [hOutcome] at hSucceeds
        cases hSucceeds

theorem owns_repeated :
    repeated.Owns stored job.target.ns pod.key pod where
  stored := by decide +kernel
  ns_eq := by decide
  selected := by decide +kernel
  created :=
    Job.ownership_eq_owned_iff.mp (by decide +kernel)

end Sample

namespace JobController

/- A second run does not make up for every first one: pods may
   be left for good. -/
theorem rerun_may_leave_pods :
    ¬ ∀ (job old : Job)
        (controller : JobController Cluster)
        (c c₁ c₂ : Cluster),
        Rerun job old controller c c₁ c₂ →
        ∀ key pod,
          ¬ c₂.Owns old job.target.ns key pod := by
  intro hNone
  exact hNone _ _ _ _ _ _ Sample.rerun_refused _ _
    Sample.owns_repeated

/- There the second run leaves what the first one left. -/
theorem rerun_pods_refused :
    Rerun Sample.job Sample.stored
      (onCluster Sample.job Sample.once)
      Sample.refusing.system Sample.refused
      Sample.repeated ∧
    ¬ Keeps Sample.job Sample.stored Sample.refused ∧
    ∀ key pod,
      Sample.repeated.Owns Sample.stored
          Sample.job.target.ns key pod ↔
        Sample.refused.Owns Sample.stored
          Sample.job.target.ns key pod := by
  have hGone :
      ¬ Keeps Sample.job Sample.stored Sample.refused := by
    rintro ⟨hStored, -⟩
    have hAbsent :
        Sample.refused.jobs.contains Sample.job.target =
          false := by
      decide +kernel
    rw [Table.contains, hStored] at hAbsent
    cases hAbsent
  have hUids :
      Sample.stored.metadata.uid ≠
        some (Sample.refusing.system.uidOf
          (Sample.refusing.system.version + 1)) := by
    change some "u" ≠ some "v"
    decide
  exact ⟨Sample.rerun_refused, hGone,
    (rerun_pods Sample.rerun_refused).2 hGone hUids⟩

end JobController

end Redeploy
