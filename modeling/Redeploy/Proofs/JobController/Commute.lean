import Redeploy.Proofs.JobController.Requests
import Redeploy.Proofs.JobController.Upsert

/-
  Upserts of different jobs, in one order or the other.

  Key definitions include:
    * `JobController.Ready`
    * `JobController.Clears`
    * `JobController.Exchanges`
    * `Cluster.Alike`

  Main results:
    * `JobController.Ready.exchanges`
    * `JobController.Exchanges.clears_iff`
    * `JobController.Exchanges.alike`
    * `JobController.upserts_commute`

  An upsert takes away the pods of the job that it replaces,
  and a pod was created by one job only.  So no upsert
  changes which pods another one takes away, and the order
  of the two shows in the uids and the versions of the new
  jobs alone.
-/

------------------------------------------------------------
-- Exchanges
------------------------------------------------------------

namespace Redeploy

namespace JobController

/- Whether nothing keeps an upsert of a job from success. -/
structure Ready
    (job : Job)
    (settings : Settings)
    (s : Situation Cluster) : Prop where
  reachable : s.system.Reachable
  unhindered : s.system.Unhindered
  staying : s.system.terminating.get? job.target = none
  patient : s.system.deletionLag < createAttempts settings
  never : s.cancelledAt = none

/- Whether an upsert of a job takes away the pod under a key:
   the last one on its node that the job of old owns. -/
def Clears
    (job : Job)
    (c : Cluster)
    (key : ObjectKey) : Prop :=
  ∃ old, c.jobs.get? job.target = some old ∧
    c.OwnsLast old job.target.ns key

/- What an upsert does to a cluster that succeeds. -/
structure Exchanges
    (job : Job)
    (c c' : Cluster) : Prop where
  stands : Stands job c c'
  spares : c.Spares job.target c'
  pods :
    ∀ key pod, c'.pods.get? key = some pod ↔
      c.pods.get? key = some pod ∧ ¬ Clears job c key

variable {job old : Job}
variable {settings : Settings}
variable {c c' : Cluster}

/- Of a job that is known, the pods that it owns last. -/
theorem clears_iff_of_stored
    {key : ObjectKey}
    (hOld : c.jobs.get? job.target = some old) :
    Clears job c key ↔ c.OwnsLast old job.target.ns key := by
  constructor
  · rintro ⟨found, hFound, hLast⟩
    rw [hOld] at hFound
    cases hFound
    exact hLast
  · exact fun hLast => ⟨old, hOld, hLast⟩

/- Where there is no job, no pod is taken away. -/
theorem not_clears_of_absent
    {key : ObjectKey}
    (hAbsent : c.jobs.get? job.target = none) :
    ¬ Clears job c key := by
  rintro ⟨found, hFound, -⟩
  rw [hAbsent] at hFound
  cases hFound

theorem Fresh.exchanges
    {outcome : Except Failure Unit}
    (h : Fresh job c outcome c')
    (hAbsent : c.jobs.get? job.target = none)
    (hStands : Stands job c c')
    (hSpares : c.Spares job.target c') :
    Exchanges job c c' where
  stands := hStands
  spares := hSpares
  pods key pod := by
    rw [h.pods]
    exact (and_iff_left (not_clears_of_absent hAbsent)).symm

theorem Replaces.exchanges
    {attempts : Nat}
    {swept : List ObjectKey}
    {outcome : Except Failure Unit}
    (h : Replaces job old attempts swept c outcome c')
    (hOld : c.jobs.get? job.target = some old)
    (hMore : c.deletionLag < attempts)
    (hStands : Stands job c c')
    (hSpares : c.Spares job.target c') :
    Exchanges job c c' where
  stands := hStands
  spares := hSpares
  pods key pod := by
    have hSwept : key ∈ swept ↔ Clears job c key := by
      rw [h.mem_swept, clears_iff_of_stored hOld]
      exact and_iff_right hMore
    rw [h.pods, ← hSwept]
    by_cases hKey : key ∈ swept
    · simp [hKey]
    · simp [hKey]

/- An upsert that nothing hinders succeeds. -/
theorem Ready.exchanges
    {w : World Cluster}
    (h : Ready job settings w.situation) :
    ((onCluster job settings).upsert.run w).1 = .ok () ∧
      Exchanges job w.system
        ((onCluster job settings).upsert.run w).2.system := by
  have hAttempts := createAttempts_pos settings
  have hUpserts := upsert_leads job settings w
  cases hGet : w.system.jobs.get? job.target with
  | none =>
      rcases upserted_fresh hAttempts h.never
          (.start h.unhindered h.staying hGet) hUpserts with
        ⟨hFresh, hStands, hSpares⟩
      exact ⟨hFresh.ok, hFresh.exchanges hGet hStands hSpares⟩
  | some old =>
      rcases upserted_replaces hAttempts h.never
          h.reachable.sound (.start h.unhindered h.staying hGet)
          hUpserts with
        ⟨⟨swept, hReplaces⟩, hStands, hSpares⟩
      have hOk := hReplaces.ok_iff.mpr h.patient
      exact ⟨hOk,
        hReplaces.exchanges hGet h.patient (hStands hOk)
          hSpares⟩

/- Nothing hinders an upsert of another job afterwards that
   was not hindered before. -/
theorem Ready.after
    {other : Job}
    {settings' : Settings}
    {w : World Cluster}
    (h : Ready other settings' w.situation)
    (hFirst : Ready job settings w.situation)
    (hTargets : job.target ≠ other.target) :
    Ready other settings'
      ((onCluster job settings).upsert.run w).2.situation := by
  have hRequested :=
    upserts_requested (upsert_leads job settings w)
  have hSpares := hFirst.exchanges.2.spares
  exact
    { reachable := h.reachable.requests hRequested.requests
      unhindered := h.unhindered.requests hRequested.requests
      staying :=
        (hSpares.terminating _ hTargets.symm).trans h.staying
      patient := by
        rw [hRequested.requests.deletionLag]
        exact h.patient
      never := hRequested.cancelledAt.trans h.never }

end JobController

end Redeploy

------------------------------------------------------------
-- Pods of Different Jobs
------------------------------------------------------------

namespace Redeploy

namespace JobController

/- Whether the jobs in two places, if there are any, are not
   of the same uid. -/
def Unlike
    (first second : Job)
    (c : Cluster) : Prop :=
  ∀ old old',
    c.jobs.get? first.target = some old →
    c.jobs.get? second.target = some old' →
    old.metadata.uid ≠ old'.metadata.uid

variable {first second : Job}
variable {c c' : Cluster}

theorem Unlike.symm
    (h : Unlike first second c) :
    Unlike second first c :=
  fun _ _ hOld hOld' hUid => h _ _ hOld' hOld hUid.symm

/- A job keeps its pods while another one is exchanged. -/
theorem Exchanges.owns_iff
    {old : Job}
    (h : Exchanges first c c')
    (hUids : Unlike first second c)
    (hOld : c.jobs.get? second.target = some old)
    (key : ObjectKey)
    (pod : Pod) :
    c'.Owns old second.target.ns key pod ↔
      c.Owns old second.target.ns key pod := by
  constructor
  · intro hOwns
    exact hOwns.congr ((h.pods key pod).mp hOwns.stored).1
  · intro hOwns
    refine hOwns.congr ((h.pods key pod).mpr ?_)
    refine ⟨hOwns.stored, ?_⟩
    rintro ⟨other, hOther, pod', hOwns', -⟩
    have hStored := hOwns'.stored
    rw [hOwns.stored] at hStored
    cases hStored
    exact hUids _ _ hOther hOld
      (hOwns'.created.uid_eq hOwns.created)

/- So the same pods are taken away after it as before. -/
theorem Exchanges.clears_iff
    (h : Exchanges first c c')
    (hTargets : first.target ≠ second.target)
    (hUids : Unlike first second c)
    (key : ObjectKey) :
    Clears second c' key ↔ Clears second c key := by
  have hJobs := h.spares.jobs _ hTargets.symm
  cases hGet : c.jobs.get? second.target with
  | none =>
      rw [hGet] at hJobs
      exact iff_of_false (not_clears_of_absent hJobs)
        (not_clears_of_absent hGet)
  | some old =>
      rw [hGet] at hJobs
      rw [clears_iff_of_stored hJobs,
        clears_iff_of_stored hGet]
      exact Cluster.ownsLast_congr
        (h.owns_iff hUids hGet)

end JobController

end Redeploy

------------------------------------------------------------
-- Both Orders
------------------------------------------------------------

namespace Redeploy

/- Whether two clusters hold the same, but for the uids and
   the versions of the jobs under two keys. -/
structure Cluster.Alike
    (key key' : ObjectKey)
    (c c' : Cluster) : Prop where
  jobs :
    ∀ k, k ≠ key → k ≠ key' →
      c'.jobs.get? k = c.jobs.get? k
  renewed :
    ∀ k, k = key ∨ k = key' →
      ∃ job uid version,
        c.jobs.get? k = some job ∧
        c'.jobs.get? k =
          some
            { job with
              metadata :=
                { job.metadata with
                  uid := some uid
                  resourceVersion := some version } }
  pods : c'.pods = c.pods
  terminating : c'.terminating = c.terminating
  nodes : c'.nodes = c.nodes

namespace JobController

/- Whether the job in its place is the wanted one, renewed
   under some uid and version. -/
def Renewed
    (job : Job)
    (c : Cluster) : Prop :=
  ∃ stored uid version,
    c.jobs.get? job.target = some stored ∧
    job.Renews stored job.target.ns uid version

section

variable {first second : Job}
variable {c c' : Cluster}

theorem Exchanges.renewed
    (h : Exchanges first c c') :
    Renewed first c' := by
  rcases h.stands.stored with ⟨stored, hStored, hRenews⟩
  exact ⟨stored, _, _, hStored, hRenews⟩

/- A renewed job stays while another one is exchanged. -/
theorem Renewed.spared
    (h : Renewed first c)
    (hTargets : first.target ≠ second.target)
    (hSpares : c.Spares second.target c') :
    Renewed first c' := by
  rcases h with ⟨stored, uid, version, hStored, hRenews⟩
  exact ⟨stored, uid, version,
    (hSpares.jobs _ hTargets).trans hStored, hRenews⟩

/- A job that is renewed in two clusters is the same in both,
   but for its uid and its version. -/
theorem Renewed.alike
    (h : Renewed first c)
    (h' : Renewed first c') :
    ∃ job uid version,
      c.jobs.get? first.target = some job ∧
      c'.jobs.get? first.target =
        some
          { job with
            metadata :=
              { job.metadata with
                uid := some uid
                resourceVersion := some version } } := by
  rcases h with ⟨stored, _, _, hStored, hRenews⟩
  rcases h' with ⟨stored', uid, version, hStored', hRenews'⟩
  refine ⟨stored, uid, version, hStored, ?_⟩
  rw [hStored', hRenews.eq_of_renews hRenews']

end

variable {first second : Job}
variable {settings settings' : Settings}
variable {c c₁ c₂ c₁₂ c₂₁ : Cluster}

/- Two jobs can be exchanged in either order. -/
theorem Exchanges.alike
    (hFirst : Exchanges first c c₁)
    (hThenSecond : Exchanges second c₁ c₁₂)
    (hSecond : Exchanges second c c₂)
    (hThenFirst : Exchanges first c₂ c₂₁)
    (hTargets : first.target ≠ second.target)
    (hUids : Unlike first second c) :
    Cluster.Alike first.target second.target c₁₂ c₂₁ where
  jobs k hKey hKey' := by
    rw [hThenFirst.spares.jobs k hKey,
      hSecond.spares.jobs k hKey',
      hThenSecond.spares.jobs k hKey',
      hFirst.spares.jobs k hKey]
  renewed := by
    rintro k (rfl | rfl)
    · exact (hFirst.renewed.spared hTargets
        hThenSecond.spares).alike hThenFirst.renewed
    · exact hThenSecond.renewed.alike
        (hSecond.renewed.spared hTargets.symm
          hThenFirst.spares)
  pods := by
    apply Table.ext_get?
    intro k
    apply Option.ext
    intro pod
    rw [hThenFirst.pods, hSecond.pods,
      hSecond.clears_iff hTargets.symm hUids.symm,
      hThenSecond.pods, hFirst.pods,
      hFirst.clears_iff hTargets hUids]
    exact and_right_comm
  terminating := by
    apply Table.ext_get?
    intro k
    by_cases hKey : k = first.target
    · rw [hKey, hThenFirst.stands.staying,
        hThenSecond.spares.terminating _ hTargets,
        hFirst.stands.staying]
    by_cases hKey' : k = second.target
    · rw [hKey', hThenSecond.stands.staying,
        hThenFirst.spares.terminating _ hTargets.symm,
        hSecond.stands.staying]
    · rw [hThenFirst.spares.terminating k hKey,
        hSecond.spares.terminating k hKey',
        hThenSecond.spares.terminating k hKey',
        hFirst.spares.terminating k hKey]
  nodes := by
    rw [hThenFirst.spares.nodes, hSecond.spares.nodes,
      hThenSecond.spares.nodes, hFirst.spares.nodes]

/-
  Upserts of two jobs that are ready for them succeed in
  either order, and both orders leave the same cluster, but
  for the uids and the versions of the two new jobs.
-/
theorem upserts_commute
    {controller controller' : JobController Cluster}
    (w : World Cluster)
    (hFirst :
      ofJob first (some Cluster.client) settings =
        .ok controller)
    (hSecond :
      ofJob second (some Cluster.client) settings' =
        .ok controller')
    (hReady : Ready first settings w.situation)
    (hReady' : Ready second settings' w.situation)
    (hTargets : first.target ≠ second.target)
    (hUids : Unlike first second w.system) :
    let w₁ := (controller.upsert.run w).2
    let w₂ := (controller'.upsert.run w).2
    ((controller.upsert.run w).1 = .ok () ∧
      (controller'.upsert.run w₁).1 = .ok ()) ∧
    ((controller'.upsert.run w).1 = .ok () ∧
      (controller.upsert.run w₂).1 = .ok ()) ∧
    Cluster.Alike first.target second.target
      (controller'.upsert.run w₁).2.system
      (controller.upsert.run w₂).2.system := by
  cases eq_onCluster hFirst
  cases eq_onCluster hSecond
  rcases hReady.exchanges with ⟨hOk₁, hExchanges₁⟩
  rcases hReady'.exchanges with ⟨hOk₂, hExchanges₂⟩
  rcases (hReady'.after hReady hTargets).exchanges with
    ⟨hOk₁₂, hExchanges₁₂⟩
  rcases (hReady.after hReady' hTargets.symm).exchanges with
    ⟨hOk₂₁, hExchanges₂₁⟩
  exact ⟨⟨hOk₁, hOk₁₂⟩, ⟨hOk₂, hOk₂₁⟩,
    hExchanges₁.alike hExchanges₁₂ hExchanges₂ hExchanges₂₁
      hTargets hUids⟩

end JobController

end Redeploy

------------------------------------------------------------
-- Two Jobs of One Namespace
------------------------------------------------------------

namespace Redeploy

namespace Sample

open JobController

/- A job beside the other one, and a pod that it created. -/
def neighbour : Job where
  metadata :=
    { name := some "k", ns := some "a", uid := some "t" }
  spec := some {}

def neighbourPod : Pod :=
  (Pod.bound ⟨"a", "q"⟩ "n" .empty).createdBy
    (.owner "Job" "a" "k" "t")

/- A cluster that holds both jobs and both pods, where a
   deletion lags by one read. -/
def shared : World Cluster :=
  world
    [.storeJob neighbour, .storePod neighbourPod,
      .setDeletionLag 1]

theorem unlike_shared :
    Unlike job neighbour shared.system := by
  have hJob :
      shared.system.jobs.get? job.target =
        some (Cluster.versioned "v" 1 job) :=
    rfl
  have hNeighbour :
      shared.system.jobs.get? neighbour.target =
        some (Cluster.versioned "v" 2 neighbour) :=
    rfl
  intro old old' hOld hOld'
  rw [hJob] at hOld
  rw [hNeighbour] at hOld'
  cases hOld
  cases hOld'
  decide

theorem ready_shared
    {wanted : Job}
    (hStaying :
      shared.system.terminating.get? wanted.target = none) :
    Ready wanted {} shared.situation where
  reachable := reachable_world _
  unhindered := by
    intro operation outcome hOutcome
    cases hOutcome
  staying := hStaying
  patient := by decide
  never := rfl

end Sample

namespace JobController

/- Both jobs are replaced, in either order. -/
theorem upserts_commute_shared :
    let controller := onCluster Sample.job {}
    let controller' := onCluster Sample.neighbour {}
    let w₁ := (controller.upsert.run Sample.shared).2
    let w₂ := (controller'.upsert.run Sample.shared).2
    ((controller.upsert.run Sample.shared).1 = .ok () ∧
      (controller'.upsert.run w₁).1 = .ok ()) ∧
    ((controller'.upsert.run Sample.shared).1 = .ok () ∧
      (controller.upsert.run w₂).1 = .ok ()) ∧
    Cluster.Alike Sample.job.target Sample.neighbour.target
      (controller'.upsert.run w₁).2.system
      (controller.upsert.run w₂).2.system :=
  upserts_commute Sample.shared
    (ofJob_eq_onCluster (by decide) {})
    (ofJob_eq_onCluster (by decide) {})
    (Sample.ready_shared rfl) (Sample.ready_shared rfl)
    (by decide) Sample.unlike_shared

end JobController

end Redeploy
