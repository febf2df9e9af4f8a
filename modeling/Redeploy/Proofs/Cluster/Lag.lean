import Redeploy.Proofs.Cluster.Departure
import Redeploy.Proofs.Cluster.Reachable

/-
  How many reads a deleted job is still found by.

  Key definitions include:
    * `Cluster.Reads`
    * `Cluster.readsAlong`
    * `Cluster.Deletes`
    * `Cluster.SameAt`
    * `Cluster.Leaves`
    * `Cluster.LagsBy`

  Main results:
    * `Cluster.sameAt_move`
    * `Cluster.Leaves.read`
    * `Cluster.Leaves.move`
    * `Cluster.Leaves.run`
    * `Cluster.lagsBy_run`

  A deleted job is found by as many reads as the cluster was
  lagging behind when it accepted the deletion.  Only reads
  of that job count, and only those that no scripted failure
  answers.  Whatever else is done to the cluster leaves the
  count as it is.
-/

------------------------------------------------------------
-- Reads
------------------------------------------------------------

namespace Redeploy

namespace Cluster

/- Whether a move gets a job, or attempts to create it, and
   is not answered by a scripted failure. -/
def Reads
    (key : ObjectKey)
    (c : Cluster) : Move → Prop
  | .getJob k => k = key ∧ c.failure? .getJob = none
  | .createJob job =>
      job.key = key ∧ c.failure? .createJob = none
  | _ => False

instance
    (key : ObjectKey)
    (c : Cluster)
    (move : Move) :
    Decidable (c.Reads key move) := by
  cases move <;> unfold Reads <;> infer_instance

/- The number of reads of a job along some moves. -/
def readsAlong
    (key : ObjectKey) :
    Cluster → List Move → Nat
  | _, [] => 0
  | c, move :: moves =>
      (if c.Reads key move then 1 else 0) +
        readsAlong key (c.move move) moves

/- Whether a move sets a job up. -/
def Move.Stores
    (key : ObjectKey) : Move → Prop
  | .storeJob job => job.key = key
  | _ => False

end Cluster

end Redeploy

------------------------------------------------------------
-- Other Moves
------------------------------------------------------------

namespace Redeploy

namespace Cluster

/- Whether a move has the deletion of a job accepted. -/
def Deletes
    (key : ObjectKey)
    (c : Cluster) : Move → Prop
  | .deleteJob k propagation =>
      k = key ∧ (Cluster.deleteJob k propagation c).1 = .ok ()
  | _ => False

/- Whether a job is as it was, with as many reads left. -/
structure SameAt
    (key : ObjectKey)
    (c c' : Cluster) : Prop where
  terminating :
    c'.terminating.get? key = c.terminating.get? key
  jobs : c'.jobs.get? key = c.jobs.get? key

theorem sameAt_heard
    (key : ObjectKey)
    (c : Cluster)
    (call : Call) :
    SameAt key c (c.heard call) :=
  ⟨rfl, rfl⟩

variable {c c' c'' : Cluster}
variable {key : ObjectKey}

theorem SameAt.trans
    (h : SameAt key c c')
    (h' : SameAt key c' c'') :
    SameAt key c c'' where
  terminating := h'.terminating.trans h.terminating
  jobs := h'.jobs.trans h.jobs

/- A cluster in which all jobs beside another one are as
   they were has this one as it was. -/
theorem Spares.sameAt
    {k : ObjectKey}
    (h : Spares k c c')
    (hKey : key ≠ k) :
    SameAt key c c' where
  terminating := h.terminating key hKey
  jobs := h.jobs key hKey

/- To store one job leaves any other as it is. -/
theorem sameAt_storeJob
    {job : Job}
    (hKey : key ≠ job.key) :
    SameAt key c (c.storeJob job).2 where
  terminating := rfl
  jobs := (Table.get?_insert _ _ _ _).trans (if_neg hKey)

/- A move that neither reads a job nor sets it up, and does
   not have its deletion accepted, leaves it as it is. -/
theorem sameAt_move
    {move : Move}
    (hReads : ¬ c.Reads key move)
    (hStores : ¬ move.Stores key)
    (hDeletes : ¬ c.Deletes key move) :
    SameAt key c (c.move move) := by
  cases move with
  | storeJob job =>
      exact sameAt_storeJob fun hKey => hStores hKey.symm
  | storePod pod => exact ⟨rfl, rfl⟩
  | storeNode node => exact ⟨rfl, rfl⟩
  | setDeletionLag reads => exact ⟨rfl, rfl⟩
  | queueFailure operation status => exact ⟨rfl, rfl⟩
  | queuePass operation => exact ⟨rfl, rfl⟩
  | getJob k =>
      have hRun :
          Cluster.getJob k c = (_, c.move (.getJob k)) :=
        rfl
      rcases getJob_cases hRun with
        ⟨_, _, _, hAfter⟩ | ⟨hPass, hAfter, _⟩
      · rw [hAfter]
        exact sameAt_heard key c _
      · have hKey : key ≠ k := fun hKey =>
          hReads ⟨hKey.symm, hPass⟩
        rw [hAfter]
        exact (sameAt_heard key c _).trans
          ((agreesBeside_read k _).sameAt hKey)
  | createJob job =>
      have hRun :
          Cluster.createJob job c =
            (_, c.move (.createJob job)) :=
        rfl
      have hSubmitted (hPass : c.failure? .createJob = none) :
          key ≠ job.key ∧ SameAt key c (c.submitted job) := by
        have hKey : key ≠ job.key := fun hKey =>
          hReads ⟨hKey.symm, hPass⟩
        exact ⟨hKey,
          (agreesBeside_submitted job c).sameAt hKey⟩
      rcases createJob_cases hRun with
        ⟨_, _, _, hAfter⟩ | ⟨hPass, _, _, hAfter⟩ |
          ⟨hPass, _, _, _, hAfter⟩ | ⟨hPass, _, _, hAfter⟩
      · rw [hAfter]
        exact sameAt_heard key c _
      · rw [hAfter]
        exact (hSubmitted hPass).2
      · rw [hAfter]
        exact (hSubmitted hPass).2
      · rcases hSubmitted hPass with ⟨hKey, hSame⟩
        rw [hAfter]
        exact hSame.trans (sameAt_storeJob hKey)
  | deleteJob k propagation =>
      have hRun :
          Cluster.deleteJob k propagation c =
            (_, c.move (.deleteJob k propagation)) :=
        rfl
      rcases deleteJob_cases hRun with
        ⟨_, _, _, hAfter⟩ | ⟨_, _, _, hAfter⟩ |
          ⟨_, _, _, hAccepted, hAfter⟩
      · rw [hAfter]
        exact sameAt_heard key c _
      · rw [hAfter]
        exact sameAt_heard key c _
      · have hKey : key ≠ k := fun hKey =>
          hDeletes ⟨hKey.symm, hAccepted⟩
        rw [hAfter]
        exact (sameAt_heard key c _).trans
          ((agreesBeside_leaving k _ _).sameAt hKey)
  | listPods ns selector =>
      have hRun :
          Cluster.listPods ns selector c =
            (_, c.move (.listPods ns selector)) :=
        rfl
      rcases listPods_cases hRun with
        ⟨_, _, _, hAfter⟩ | ⟨_, _, hAfter⟩
      · rw [hAfter]
        exact sameAt_heard key c _
      · rw [hAfter]
        exact sameAt_heard key c _
  | deletePod k =>
      have hRun :
          Cluster.deletePod k c = (_, c.move (.deletePod k)) :=
        rfl
      rcases deletePod_cases hRun with
        ⟨_, _, _, hAfter⟩ | ⟨_, _, hAfter⟩
      · rw [hAfter]
        exact sameAt_heard key c _
      · rw [hAfter]
        exact ⟨rfl, rfl⟩
  | listNodes selector =>
      have hRun :
          Cluster.listNodes selector c =
            (_, c.move (.listNodes selector)) :=
        rfl
      rcases listNodes_cases hRun with
        ⟨_, _, _, hAfter⟩ | ⟨_, _, hAfter⟩
      · rw [hAfter]
        exact sameAt_heard key c _
      · rw [hAfter]
        exact sameAt_heard key c _

end Cluster

end Redeploy

------------------------------------------------------------
-- Leaving
------------------------------------------------------------

namespace Redeploy

namespace Cluster

/- Whether a job that was deleted is found, as it was, by a
   number of reads more. -/
structure Leaves
    (c : Cluster)
    (key : ObjectKey)
    (old : Job)
    (left : Nat) : Prop where
  departs : c.Departs key left
  same : ∀ job, c.jobs.get? key = some job → job = old

variable {c c' : Cluster}
variable {key : ObjectKey}
variable {old : Job}
variable {left : Nat}

/- What is done to other jobs has no part in it. -/
theorem Leaves.congr
    (h : c.Leaves key old left)
    (hSame : SameAt key c c') :
    c'.Leaves key old left where
  departs := by
    cases h.departs with
    | lingering hLeft hStored =>
        refine .lingering (hSame.terminating.trans hLeft) ?_
        rw [Table.contains, hSame.jobs]
        exact hStored
    | gone hStaying hAbsent =>
        exact .gone (hSame.terminating.trans hStaying)
          (hSame.jobs.trans hAbsent)
  same job hJob := h.same job (hSame.jobs.symm.trans hJob)

theorem Leaves.heard
    (h : c.Leaves key old left)
    (call : Call) :
    (c.heard call).Leaves key old left :=
  h.congr (sameAt_heard key c call)

/- A job that has reads left is there. -/
theorem Leaves.stored
    (h : c.Leaves key old (left + 1)) :
    c.jobs.get? key = some old := by
  cases h.departs with
  | lingering _ hStored =>
      rcases Table.contains_iff.mp hStored with ⟨job, hJob⟩
      rwa [h.same job hJob] at hJob

/- A read takes one of the reads that are left. -/
theorem Leaves.read
    (h : c.Leaves key old (left + 1)) :
    (c.read key).Leaves key old left := by
  rcases h.departs.read_lingering with
    ⟨hLeft, hJobs, hStored⟩
  refine ⟨.lingering hLeft ?_, ?_⟩
  · rw [hJobs]
    exact hStored
  · intro job hJob
    rw [hJobs] at hJob
    exact h.same job hJob

/- A job begins to leave with as many reads as the cluster
   lags behind. -/
theorem leaves_leaving
    (hStaying : c.terminating.get? key = none)
    (hStored : c.jobs.get? key = some old) :
    (c.leaving key c.deletionLag).Leaves key old
      c.deletionLag where
  departs := by
    apply departs_leaving hStaying
    exact Table.contains_iff.mpr ⟨old, hStored⟩
  same job hJob := by
    unfold leaving at hJob
    dsimp only at hJob
    split at hJob
    · rw [Table.get?_erase_self] at hJob
      cases hJob
    · rw [hStored] at hJob
      exact (Option.some.inj hJob).symm

end Cluster

end Redeploy

------------------------------------------------------------
-- Moves
------------------------------------------------------------

namespace Redeploy

namespace Cluster

variable {c : Cluster}
variable {key : ObjectKey}
variable {old : Job}
variable {left : Nat}

/- To attempt to create the job is to read it. -/
theorem Leaves.submitted_eq_read
    {job : Job}
    (h : c.Leaves key old left)
    (hKey : job.key = key) :
    ∃ d : Cluster, c.submitted job = d.read key ∧
      d.Leaves key old left :=
  ⟨{ c.heard (.createJob key) with
      created := c.created ++ [job] },
    by rw [submitted, hKey], h.congr ⟨rfl, rfl⟩⟩

theorem Leaves.submitted
    {job : Job}
    (h : c.Leaves key old (left + 1))
    (hKey : job.key = key) :
    (c.submitted job).Leaves key old left := by
  rcases h.submitted_eq_read hKey with ⟨d, hRead, hLeaves⟩
  rw [hRead]
  exact hLeaves.read

theorem Leaves.submitted_stored
    {job : Job}
    (h : c.Leaves key old (left + 1))
    (hKey : job.key = key) :
    (c.submitted job).jobs.contains job.key = true := by
  rcases h.submitted_eq_read hKey with ⟨d, hRead, hLeaves⟩
  rcases hLeaves.departs.read_lingering with
    ⟨_, hJobs, hStored⟩
  rw [hRead, hJobs, hKey]
  exact hStored

/- A job that leaves answers as one that is gone to whoever
   would delete it. -/
theorem Leaves.gone
    (h : c.Leaves key old left) :
    c.terminating.contains key = true ∨
      c.jobs.contains key = false := by
  cases h.departs with
  | lingering hLeft _ =>
      exact .inl (Table.contains_iff.mpr ⟨left, hLeft⟩)
  | gone _ hAbsent =>
      exact .inr (Table.contains_eq_false_iff.mpr hAbsent)

/- It cannot be deleted once more. -/
theorem Leaves.not_deletes
    {move : Move}
    (h : c.Leaves key old left) :
    ¬ c.Deletes key move := by
  intro hDeletes
  cases move with
  | deleteJob k propagation =>
      rcases hDeletes with ⟨rfl, hAccepted⟩
      rcases deleteJob_cases (Prod.ext hAccepted rfl) with
        ⟨_, _, hAnswer, _⟩ | ⟨_, _, hAnswer, _⟩ |
          ⟨_, hStaying, hStored, _, _⟩
      · cases hAnswer
      · cases hAnswer
      · rcases h.gone with hTerminating | hAbsent
        · rw [Table.contains, hStaying] at hTerminating
          cases hTerminating
        · rw [hStored] at hAbsent
          cases hAbsent
  | _ => exact hDeletes

/- A move that reads the job takes one of its reads. -/
theorem Leaves.move_reads
    {move : Move}
    (h : c.Leaves key old (left + 1))
    (hReads : c.Reads key move) :
    (c.move move).Leaves key old left := by
  cases move with
  | getJob k =>
      rcases hReads with ⟨rfl, hPass⟩
      rw [Cluster.move, getJob_of_pass hPass]
      exact (h.heard _).read
  | createJob job =>
      rcases hReads with ⟨hKey, hPass⟩
      rw [Cluster.move, createJob_of_stored hPass
        (h.submitted_stored hKey)]
      exact h.submitted hKey
  | _ => cases hReads

/- No other move takes any. -/
theorem Leaves.move
    {move : Move}
    (h : c.Leaves key old left)
    (hReads : ¬ c.Reads key move)
    (hStores : ¬ move.Stores key) :
    (c.move move).Leaves key old left :=
  h.congr (sameAt_move hReads hStores h.not_deletes)

/- Along any moves that do not set the job up, each read
   takes one of the reads that are left. -/
theorem Leaves.run
    {moves : List Move}
    (h : c.Leaves key old left)
    (hStores : ∀ move ∈ moves, ¬ move.Stores key)
    (hReads : readsAlong key c moves ≤ left) :
    (moves.foldl Cluster.move c).Leaves key old
      (left - readsAlong key c moves) := by
  induction moves generalizing c left with
  | nil => exact h
  | cons move moves ih =>
      have hStays : ¬ move.Stores key :=
        hStores move List.mem_cons_self
      replace hStores :
          ∀ next ∈ moves, ¬ next.Stores key :=
        fun next hNext =>
          hStores next (List.mem_cons_of_mem _ hNext)
      rw [readsAlong] at hReads ⊢
      by_cases hRead : c.Reads key move
      · rw [if_pos hRead] at hReads ⊢
        cases left with
        | zero => omega
        | succ left =>
            have hRun :=
              ih (h.move_reads hRead) hStores (by omega)
            rwa [Nat.add_comm 1, Nat.add_sub_add_right]
      · rw [if_neg hRead, Nat.zero_add] at hReads ⊢
        exact ih (h.move hRead hStays) hStores hReads

end Cluster

end Redeploy

------------------------------------------------------------
-- Answers
------------------------------------------------------------

namespace Redeploy

namespace Cluster

/-
  How requests that are not answered by a scripted failure
  find a deleted job after a number of reads, where the
  deletion lags by another number of them.
-/
structure LagsBy
    (c : Cluster)
    (key : ObjectKey)
    (old : Job)
    (reads lag : Nat) : Prop where
  /- The first reads find the job, -/
  found :
    reads < lag → c.failure? .getJob = none →
      (getJob key c).1 = .ok old
  occupied :
    ∀ job : Job, reads < lag → job.key = key →
      c.failure? .createJob = none →
      (createJob job c).1 =
        .error (.status (.alreadyExists Job.kind key.name))
  /- it cannot be deleted meanwhile, -/
  undeletable :
    ∀ propagation, reads ≤ lag →
      c.failure? .deleteJob = none →
      (deleteJob key propagation c).1 =
        .error (.status (.notFound Job.kind key.name))
  /- and the next read finds it absent. -/
  absent :
    reads = lag → c.failure? .getJob = none →
      (getJob key c).1 =
        .error (.status (.notFound Job.kind key.name))
  free :
    ∀ job : Job, reads = lag → job.key = key →
      c.failure? .createJob = none →
      job.metadata.uid = none →
      job.metadata.resourceVersion = none →
      (createJob job c).1 =
        .ok (versioned (c.uidOf (c.version + 1))
          (c.version + 1) job)

variable {c : Cluster}
variable {key : ObjectKey}
variable {old : Job}

/- One who creates the job after its last read finds its
   place free. -/
theorem Leaves.submitted_absent
    {job : Job}
    (h : c.Leaves key old 0)
    (hKey : job.key = key) :
    (c.submitted job).jobs.get? job.key = none := by
  rcases h.submitted_eq_read hKey with ⟨d, hRead, hLeaves⟩
  rw [hRead, hKey]
  exact hLeaves.departs.read_gone.2

/- What is left of the lag decides all answers. -/
theorem Leaves.lagsBy
    {reads lag : Nat}
    (h : reads ≤ lag → c.Leaves key old (lag - reads)) :
    c.LagsBy key old reads lag := by
  have hLeft (hReads : reads < lag) :
      c.Leaves key old (lag - reads - 1 + 1) := by
    rw [Nat.sub_add_cancel (by omega)]
    exact h (Nat.le_of_lt hReads)
  have hLast (hReads : reads = lag) :
      c.Leaves key old 0 := by
    have hLeaves := h (Nat.le_of_eq hReads)
    rwa [hReads, Nat.sub_self] at hLeaves
  refine
    { found := ?_
      occupied := ?_
      undeletable := ?_
      absent := ?_
      free := ?_ }
  · intro hReads hPass
    have hHeard := (hLeft hReads).heard (.getJob key)
    rcases hHeard.departs.read_lingering with ⟨_, hJobs, _⟩
    rw [getJob_of_pass hPass, Cluster.found, hJobs,
      hHeard.stored]
  · intro job hReads hKey hPass
    rw [createJob_of_stored hPass
      ((hLeft hReads).submitted_stored hKey), hKey]
  · intro propagation hReads hPass
    rw [deleteJob_of_gone hPass (h hReads).gone]
  · intro hReads hPass
    have hHeard := (hLast hReads).heard (.getJob key)
    rcases hHeard.departs.read_gone with ⟨_, hAbsent⟩
    rw [getJob_of_pass hPass, Cluster.found, hAbsent]
  · intro job hReads hKey hPass hUid hVersion
    have hAgrees := agreesBeside_submitted job c
    rw [createJob_of_free hPass
      ((hLast hReads).submitted_absent hKey) hUid hVersion,
      storeJob, hAgrees.version, hAgrees.uidOf]

/- A deletion lags by exactly as many reads as were set when
   it was accepted, whatever else happens meanwhile. -/
theorem lagsBy_run
    {propagation : Option Propagation}
    {moves : List Move}
    (hStored : c.jobs.get? key = some old)
    (hAccepted : (deleteJob key propagation c).1 = .ok ())
    (hStores : ∀ move ∈ moves, ¬ move.Stores key) :
    let deleted := (deleteJob key propagation c).2
    (moves.foldl Cluster.move deleted).LagsBy key old
      (readsAlong key deleted moves) c.deletionLag := by
  intro deleted
  have hRun : deleteJob key propagation c = (.ok (), deleted) :=
    Prod.ext hAccepted rfl
  have hDeleted :
      deleted.Leaves key old c.deletionLag := by
    rcases deleteJob_cases hRun with
      ⟨_, _, hAnswer, _⟩ | ⟨_, _, hAnswer, _⟩ |
        ⟨_, hStaying, _, _, hAfter⟩
    · cases hAnswer
    · cases hAnswer
    · rw [hAfter]
      exact leaves_leaving hStaying hStored
  exact Leaves.lagsBy fun hReads =>
    hDeleted.run hStores hReads

/- Two reads use up a lag of two; a failed one does not
   count, and a lag that is set later has no part in it. -/
theorem lagsBy_two_reads :
    let key : ObjectKey := ⟨"a", "j"⟩
    let c :=
      [Move.storeJob (.bare key), .setDeletionLag 2].foldl
        Cluster.move {}
    let deleted := (deleteJob key none c).2
    let d :=
      [Move.createJob (.bare key),
        .queueFailure .getJob (.notFound Job.kind key.name),
        .getJob key, .setDeletionLag 5, .getJob key].foldl
        Cluster.move deleted
    d.LagsBy key
      (versioned "generated-1" 1 (.bare key)) 2 2 :=
  lagsBy_run rfl rfl (by simp [Move.Stores])

end Cluster

end Redeploy
