import Redeploy.Proofs.JobController.OnCluster

/-
  What the requests of a controller do to a cluster in memory
  where failures may be scripted for them.

  Key definitions include:
    * `Cluster.SameStores`
    * `Cluster.Outgoing`

  Main results:
    * `JobController.find_same`, `JobController.podsOf_same`
    * `JobController.remove_same`
    * `JobController.create_staying`
    * `JobController.create_departing`
    * `JobController.find_outgoing`
    * `JobController.remove_outgoing`
    * `JobController.create_outgoing`

  A request that is refused leaves the stores alone, and so
  does every request but the deletion of a job that stays.
  Once that is accepted, the place of the job holds this very
  job, on its way out, or nothing.
-/

------------------------------------------------------------
-- Requests That May Fail
------------------------------------------------------------

namespace Redeploy

/- Whether two clusters hold the same jobs and pods. -/
structure Cluster.SameStores
    (c c' : Cluster) : Prop where
  jobs : c'.jobs = c.jobs
  terminating : c'.terminating = c.terminating
  pods : c'.pods = c.pods
  version : c'.version = c.version
  uidOf : c'.uidOf = c.uidOf

variable {c c' c'' : Cluster}

theorem Cluster.SameStores.refl
    (c : Cluster) :
    c.SameStores c where
  jobs := rfl
  terminating := rfl
  pods := rfl
  version := rfl
  uidOf := rfl

theorem Cluster.SameStores.trans
    (h : c.SameStores c')
    (h' : c'.SameStores c'') :
    c.SameStores c'' where
  jobs := h'.jobs.trans h.jobs
  terminating := h'.terminating.trans h.terminating
  pods := h'.pods.trans h.pods
  version := h'.version.trans h.version
  uidOf := h'.uidOf.trans h.uidOf

theorem Cluster.sameStores_heard
    (c : Cluster)
    (call : Call) :
    c.SameStores (c.heard call) :=
  { Cluster.SameStores.refl c with }

/- To delete a pod takes away no other one, and no job. -/
theorem Cluster.deletePod_loses
    {key : ObjectKey}
    {answer : Except ClientError Unit}
    (h : deletePod key c = (answer, c')) :
    c'.jobs = c.jobs ∧
      c'.terminating = c.terminating ∧
      ∀ k, c'.pods.get? k = c.pods.get? k ∨
        (c'.pods.get? k = none ∧ k = key) := by
  rcases deletePod_cases h with
    ⟨_, _, _, rfl⟩ | ⟨_, _, rfl⟩
  · exact ⟨rfl, rfl, fun _ => .inl rfl⟩
  · refine ⟨rfl, rfl, ?_⟩
    intro k
    change (c.pods.erase key).get? k = _ ∨
      ((c.pods.erase key).get? k = none ∧ _)
    rw [Table.get?_erase]
    by_cases hKey : k = key
    · rw [if_pos hKey]
      exact .inr ⟨rfl, hKey⟩
    · rw [if_neg hKey]
      exact .inl rfl

namespace JobController

variable {job old : Job}
variable {settings : Settings}
variable {s s' : Situation Cluster}

/- To look for a job that stays changes nothing. -/
theorem find_same
    {outcome : Except Failure Job}
    (hStaying : s.system.terminating.get? job.target = none)
    (h : (onCluster job settings).workload.find.Leads s
      outcome s') :
    s.system.SameStores s'.system ∧
      ∀ current, outcome = .ok current →
        s.system.jobs.get? job.target = some current := by
  rcases leads_find h with ⟨answer, hStep, -, rfl⟩
  rcases Cluster.getJob_cases hStep with
    ⟨status, -, rfl, hAfter⟩ | ⟨-, hAfter, rfl⟩
  · rw [hAfter]
    refine ⟨Cluster.sameStores_heard _ _, ?_⟩
    intro current hOk
    cases hOk
  · have hRead :
        (s.system.heard (.getJob job.target)).read job.target =
          s.system.heard (.getJob job.target) :=
      Cluster.read_of_staying hStaying
    rw [hRead] at hAfter
    rw [hAfter]
    refine ⟨Cluster.sameStores_heard _ _, ?_⟩
    intro current hOk
    unfold Cluster.found at hOk
    rw [Cluster.heard_jobs] at hOk
    cases hGet : s.system.jobs.get? job.target with
    | none =>
        rw [hGet] at hOk
        cases hOk
    | some stored =>
        rw [hGet] at hOk
        cases hOk
        rfl

/- To list pods changes nothing. -/
theorem podsOf_same
    {current : Job}
    {outcome : Except Failure NodePods}
    (h : ((onCluster job settings).workload.podsOf
      current).Leads s outcome s') :
    s.system.SameStores s'.system := by
  rcases leads_podsOf h with ⟨answer, hStep, -, -⟩
  rcases Cluster.listPods_cases hStep with
    ⟨_, -, -, hAfter⟩ | ⟨-, -, hAfter⟩
  · rw [hAfter]
    exact Cluster.sameStores_heard _ _
  · rw [hAfter]
    exact Cluster.sameStores_heard _ _

/- A deletion that is not accepted changes nothing; one that
   is lets the job depart. -/
theorem remove_same
    {propagation : Option Propagation}
    {outcome : Except Failure Unit}
    (h : ((onCluster job settings).workload.remove
      propagation).Leads s outcome s') :
    (∃ e, outcome = .error e ∧
      s.system.SameStores s'.system) ∨
    (outcome = .ok () ∧
      s.system.terminating.get? job.target = none ∧
      s'.system.Departs job.target s.system.deletionLag ∧
      s.system.AgreesBeside job.target s'.system) := by
  rcases leads_remove h with ⟨answer, hStep, -, rfl⟩
  rcases Cluster.deleteJob_cases hStep with
    ⟨_, -, rfl, hAfter⟩ | ⟨-, -, rfl, hAfter⟩ |
      ⟨-, hStaying, hStored, rfl, hAfter⟩
  · rw [hAfter]
    exact .inl ⟨_, rfl, Cluster.sameStores_heard _ _⟩
  · rw [hAfter]
    exact .inl ⟨_, rfl, Cluster.sameStores_heard _ _⟩
  · rw [hAfter]
    refine .inr ⟨rfl, hStaying, ?_, ?_⟩
    · exact Cluster.departs_leaving hStaying hStored
    · exact (Cluster.agreesBeside_heard _ _ _).trans
        (Cluster.agreesBeside_leaving _ _ _)

/- To look at a job to be created changes nothing where none
   is on its way out. -/
theorem sameStores_submitted
    {c : Cluster}
    (hStaying : c.terminating.get? job.target = none) :
    c.SameStores (c.submitted (submission job)) := by
  have hRead :
      c.submitted (submission job) =
        { c.heard (.createJob job.target) with
          created := c.created ++ [submission job] } := by
    rw [submitted_eq]
    exact Cluster.read_of_staying hStaying
  rw [hRead]
  exact { Cluster.SameStores.refl c with }

/- Nor does a creation there that fails. -/
theorem create_same
    {e : Failure}
    (hStaying : s.system.terminating.get? job.target = none)
    (h : (onCluster job settings).workload.create.Leads s
      (.error e) s') :
    s.system.SameStores s'.system := by
  have hSubmitted :
      s.system.SameStores
        (s.system.submitted (submission job)) :=
    sameStores_submitted hStaying
  rcases leads_create h with ⟨answer, hStep, -, hOutcome⟩
  rcases Cluster.createJob_cases hStep with
    ⟨_, -, -, hAfter⟩ | ⟨-, -, -, hAfter⟩ |
      ⟨-, -, -, -, hAfter⟩ | ⟨-, -, rfl, -⟩
  · rw [hAfter]
    exact Cluster.sameStores_heard _ _
  · rw [hAfter]
    exact hSubmitted
  · rw [hAfter]
    exact hSubmitted
  · cases hOutcome

/- No job is created where one stays. -/
theorem create_staying
    {outcome : Except Failure Unit}
    (hStaying : s.system.terminating.get? job.target = none)
    (hStored :
      s.system.jobs.contains job.target = true)
    (h : (onCluster job settings).workload.create.Leads s
      outcome s') :
    (∃ e, outcome = .error e) ∧
      s.system.SameStores s'.system := by
  cases outcome with
  | error e => exact ⟨⟨e, rfl⟩, create_same hStaying h⟩
  | ok =>
      have hJobs :
          (s.system.submitted (submission job)).jobs =
            s.system.jobs :=
        (sameStores_submitted hStaying).jobs
      rcases leads_create h with ⟨answer, hStep, -, hOutcome⟩
      have hCases := Cluster.createJob_cases hStep
      rw [submission_key, hJobs, hStored] at hCases
      rcases hCases with
        ⟨_, -, rfl, -⟩ | ⟨-, -, rfl, -⟩ |
          ⟨-, hAbsent, -⟩ | ⟨-, hAbsent, -⟩
      · cases hOutcome
      · cases hOutcome
      · cases hAbsent
      · cases hAbsent

/- To create a job where one departs either fails and lets
   it depart, or comes after it. -/
theorem create_departing
    {c : Cluster}
    {left : Nat}
    {outcome : Except Failure Unit}
    (hDeparts : s.system.Departs job.target left)
    (hAgrees : c.AgreesBeside job.target s.system)
    (h : (onCluster job settings).workload.create.Leads s
      outcome s') :
    (∃ e left', outcome = .error e ∧
      s'.system.Departs job.target left' ∧
      c.AgreesBeside job.target s'.system) ∨
    (outcome = .ok () ∧
      s'.system.terminating.get? job.target = none ∧
      s'.system.jobs.get? job.target =
        some (Cluster.versioned (c.uidOf (c.version + 1))
          (c.version + 1) (submission job)) ∧
      s'.system.pods = c.pods) := by
  have hRecorded :
      Cluster.Departs
        { s.system.heard (.createJob job.target) with
          created := s.system.created ++ [submission job] }
        job.target left :=
    hDeparts.congr rfl rfl
  have hSubmitted :
      c.AgreesBeside job.target
        (s.system.submitted (submission job)) := by
    have hLook :=
      Cluster.agreesBeside_submitted (submission job) s.system
    rw [submission_key] at hLook
    exact hAgrees.trans hLook
  rcases leads_create h with ⟨answer, hStep, -, rfl⟩
  have hCases := Cluster.createJob_cases hStep
  rw [submission_key] at hCases
  rcases hCases with
    ⟨_, -, rfl, hAfter⟩ | ⟨-, hStored, rfl, hAfter⟩ |
      ⟨-, -, hKnown, -⟩ | ⟨-, hAbsent, rfl, hAfter⟩
  · refine .inl ⟨_, left, rfl, ?_, ?_⟩
    · rw [hAfter]
      exact hDeparts.congr rfl rfl
    · rw [hAfter]
      exact hAgrees.trans (Cluster.agreesBeside_heard _ _ _)
  · rw [submitted_eq] at hStored
    cases left with
    | zero =>
        have hGone := hRecorded.read_gone.2
        rw [Table.contains, hGone] at hStored
        cases hStored
    | succ left =>
        have hLeft := hRecorded.read_lingering.1
        refine .inl ⟨_, left, rfl, ?_, ?_⟩
        · rw [hAfter, submitted_eq]
          exact .lingering hLeft hStored
        · rw [hAfter]
          exact hSubmitted
  · cases hKnown with
    | inl hUid => cases hUid
    | inr hVersion => cases hVersion
  · refine .inr ⟨rfl, ?_, ?_, ?_⟩
    · rw [submitted_eq] at hAbsent
      cases left with
      | zero =>
          rw [hAfter, submitted_eq]
          exact hRecorded.read_gone.1
      | succ left =>
          rcases hRecorded.read_lingering with
            ⟨-, hJobs, hStored⟩
          rw [hJobs, hStored] at hAbsent
          cases hAbsent
    · rw [hAfter, storeJob_submission_jobs hSubmitted,
        Table.get?_insert_self]
    · rw [hAfter]
      exact hSubmitted.pods

/- To delete pods changes no job, and brings no pod. -/
theorem sweeps_subset
    {ns : String}
    {pods : List Pod}
    {outcome : Except Failure Unit}
    (h : NodePods.Sweeps Cluster.client ns pods s
      outcome s') :
    s'.system.jobs = s.system.jobs ∧
      s'.system.terminating = s.system.terminating ∧
      ∀ key pod, s'.system.pods.get? key = some pod →
        s.system.pods.get? key = some pod := by
  apply h.preserves _ ⟨rfl, rfl, fun _ _ hGet => hGet⟩
  rintro pod - t answer t' ⟨hJobs, hTerminating, hPods⟩
    hDelete
  rcases Cluster.leads_deletePod hDelete with ⟨hStep, -⟩
  rcases Cluster.deletePod_loses hStep with
    ⟨hJobs', hTerminating', hLoses⟩
  refine ⟨hJobs'.trans hJobs,
    hTerminating'.trans hTerminating, ?_⟩
  intro key other hGet
  rcases hLoses key with hSame | ⟨hGone, -⟩
  · rw [hSame] at hGet
    exact hPods key other hGet
  · rw [hGone] at hGet
    cases hGet

end JobController

end Redeploy

------------------------------------------------------------
-- Jobs on Their Way Out
------------------------------------------------------------

namespace Redeploy

namespace Cluster

/- Whether a place holds nothing, or a job of old that is on
   its way out. -/
inductive Outgoing
    (c : Cluster)
    (key : ObjectKey)
    (old : Job) : Prop where
  | lingering
      (hLeft : c.terminating.contains key = true)
      (hOld : c.jobs.get? key = some old)
  | gone
      (hStaying : c.terminating.get? key = none)
      (hAbsent : c.jobs.get? key = none)

variable {c c' : Cluster}
variable {key : ObjectKey}
variable {old : Job}

theorem Outgoing.congr
    (h : c.Outgoing key old)
    (hTerminating : c'.terminating = c.terminating)
    (hJobs : c'.jobs = c.jobs) :
    c'.Outgoing key old := by
  cases h with
  | lingering hLeft hOld =>
      refine .lingering ?_ ?_
      · rw [hTerminating, hLeft]
      · rw [hJobs, hOld]
  | gone hStaying hAbsent =>
      refine .gone ?_ ?_
      · rw [hTerminating, hStaying]
      · rw [hJobs, hAbsent]

/- A read can only make the job disappear. -/
theorem Outgoing.read
    (h : c.Outgoing key old) :
    (c.read key).Outgoing key old := by
  cases h with
  | gone hStaying hAbsent =>
      rw [read_of_staying hStaying]
      exact .gone hStaying hAbsent
  | lingering hLeft hOld =>
      rcases Table.contains_iff.mp hLeft with ⟨left, hLeft⟩
      cases left with
      | zero =>
          rw [read_of_going hLeft]
          exact .gone (Table.get?_erase_self _ _)
            (Table.get?_erase_self _ _)
      | succ left =>
          rw [read_of_lingering hLeft]
          exact .lingering
            (Table.contains_iff.mpr
              ⟨left, Table.get?_insert_self _ _ _⟩) hOld

/- A job whose deletion is accepted is on its way out. -/
theorem outgoing_leaving
    (left : Nat)
    (hStaying : c.terminating.get? key = none)
    (hOld : c.jobs.get? key = some old) :
    (c.leaving key left).Outgoing key old := by
  unfold leaving
  by_cases hLag : c.deletionLag = 0
  · rw [if_pos hLag, if_pos hLag]
    exact .gone hStaying (Table.get?_erase_self _ _)
  · rw [if_neg hLag, if_neg hLag]
    exact .lingering
      (Table.contains_iff.mpr
        ⟨left, Table.get?_insert_self _ _ _⟩) hOld

/- A place of that kind is one from which a job departs. -/
theorem Outgoing.departs
    (h : c.Outgoing key old) :
    ∃ left, c.Departs key left := by
  cases h with
  | gone hStaying hAbsent => exact ⟨0, .gone hStaying hAbsent⟩
  | lingering hLeft hOld =>
      rcases Table.contains_iff.mp hLeft with ⟨left, hLeft⟩
      exact ⟨left, .lingering hLeft
        (Table.contains_iff.mpr ⟨old, hOld⟩)⟩

end Cluster

namespace JobController

variable {job old : Job}
variable {settings : Settings}
variable {s s' : Situation Cluster}

/- To look for a job on its way out can only make it
   disappear. -/
theorem find_outgoing
    {outcome : Except Failure Job}
    (hOutgoing : s.system.Outgoing job.target old)
    (h : (onCluster job settings).workload.find.Leads s
      outcome s') :
    s'.system.Outgoing job.target old ∧
      s.system.AgreesBeside job.target s'.system := by
  rcases leads_find h with ⟨answer, hStep, -, -⟩
  have hHeard :
      (s.system.heard (.getJob job.target)).Outgoing
        job.target old :=
    hOutgoing.congr rfl rfl
  rcases Cluster.getJob_cases hStep with
    ⟨_, -, -, hAfter⟩ | ⟨-, hAfter, -⟩
  · rw [hAfter]
    exact ⟨hHeard, Cluster.agreesBeside_heard _ _ _⟩
  · rw [hAfter]
    exact ⟨hHeard.read,
      (Cluster.agreesBeside_heard _ _ _).trans
        (Cluster.agreesBeside_read _ _)⟩

/- A job whose deletion is accepted goes out. -/
theorem remove_outgoing
    {propagation : Option Propagation}
    (hOld : s.system.jobs.get? job.target = some old)
    (h : ((onCluster job settings).workload.remove
      propagation).Leads s (.ok ()) s') :
    s'.system.Outgoing job.target old ∧
      s.system.AgreesBeside job.target s'.system := by
  rcases leads_remove h with ⟨answer, hStep, -, hOutcome⟩
  rcases Cluster.deleteJob_cases hStep with
    ⟨_, -, rfl, -⟩ | ⟨-, -, rfl, -⟩ |
      ⟨-, hStaying, -, -, hAfter⟩
  · cases hOutcome
  · cases hOutcome
  · rw [hAfter]
    exact ⟨Cluster.outgoing_leaving _ hStaying hOld,
      (Cluster.agreesBeside_heard _ _ _).trans
        (Cluster.agreesBeside_leaving _ _ _)⟩

/- A creation that fails can only make the job that is on its
   way out disappear. -/
theorem create_outgoing
    {e : Failure}
    (hOutgoing : s.system.Outgoing job.target old)
    (h : (onCluster job settings).workload.create.Leads s
      (.error e) s') :
    s'.system.Outgoing job.target old := by
  have hSubmitted :
      (s.system.submitted (submission job)).Outgoing
        job.target old := by
    rw [submitted_eq]
    exact Cluster.Outgoing.read (hOutgoing.congr rfl rfl)
  rcases leads_create h with ⟨answer, hStep, -, hOutcome⟩
  rcases Cluster.createJob_cases hStep with
    ⟨_, -, -, hAfter⟩ | ⟨-, -, -, hAfter⟩ |
      ⟨-, -, -, -, hAfter⟩ | ⟨-, -, rfl, -⟩
  · rw [hAfter]
    exact hOutgoing.congr rfl rfl
  · rw [hAfter]
    exact hSubmitted
  · rw [hAfter]
    exact hSubmitted
  · cases hOutcome

end JobController

end Redeploy
