import Redeploy.Proofs.Cluster.Request

/-
  How a job leaves a cluster.

  Key definitions include:
    * `Cluster.Spares`
    * `Cluster.AgreesBeside`
    * `Cluster.Departs`
    * `Cluster.Lingers`

  Main results:
    * `Cluster.Departs.read_lingering`
    * `Cluster.Departs.read_gone`
    * `Cluster.departs_leaving`
    * `Cluster.contains_read_iff`

  Once its deletion is accepted, a job is found by so many
  reads more and by none after those.  Nothing but that job
  is touched on the way.
-/

------------------------------------------------------------
-- Agreement
------------------------------------------------------------

namespace Redeploy

namespace Cluster

/- Whether all jobs but one, and all nodes, are as they
   were. -/
structure Spares
    (key : ObjectKey)
    (c c' : Cluster) : Prop where
  jobs :
    ∀ k, k ≠ key → c'.jobs.get? k = c.jobs.get? k
  terminating :
    ∀ k, k ≠ key →
      c'.terminating.get? k = c.terminating.get? k
  nodes : c'.nodes = c.nodes

/- Whether a cluster is as an earlier one was, but for one
   job and for what it has recorded. -/
structure AgreesBeside
    (key : ObjectKey)
    (c c' : Cluster) : Prop
    extends Spares key c c' where
  pods : c'.pods = c.pods
  deletionLag : c'.deletionLag = c.deletionLag
  version : c'.version = c.version
  uidOf : c'.uidOf = c.uidOf

variable {c c' c'' : Cluster}
variable {key : ObjectKey}

theorem Spares.trans
    (h : Spares key c c')
    (h' : Spares key c' c'') :
    Spares key c c'' where
  jobs k hKey := (h'.jobs k hKey).trans (h.jobs k hKey)
  terminating k hKey :=
    (h'.terminating k hKey).trans (h.terminating k hKey)
  nodes := h'.nodes.trans h.nodes

theorem AgreesBeside.refl
    (key : ObjectKey)
    (c : Cluster) :
    AgreesBeside key c c where
  jobs _ _ := rfl
  terminating _ _ := rfl
  nodes := rfl
  pods := rfl
  deletionLag := rfl
  version := rfl
  uidOf := rfl

theorem AgreesBeside.trans
    (h : AgreesBeside key c c')
    (h' : AgreesBeside key c' c'') :
    AgreesBeside key c c'' where
  toSpares := h.toSpares.trans h'.toSpares
  pods := h'.pods.trans h.pods
  deletionLag := h'.deletionLag.trans h.deletionLag
  version := h'.version.trans h.version
  uidOf := h'.uidOf.trans h.uidOf

/- To hear of a call is no change. -/
theorem agreesBeside_heard
    (key : ObjectKey)
    (c : Cluster)
    (call : Call) :
    AgreesBeside key c (c.heard call) :=
  { AgreesBeside.refl key c with }

theorem agreesBeside_read
    (key : ObjectKey)
    (c : Cluster) :
    AgreesBeside key c (c.read key) := by
  cases hLeft : c.terminating.get? key with
  | none =>
      rw [read_of_staying hLeft]
      exact .refl key c
  | some left =>
      cases left with
      | zero =>
          rw [read_of_going hLeft]
          refine { AgreesBeside.refl key c with
            jobs := ?_, terminating := ?_ }
          · intro k hKey
            rw [Table.get?_erase, if_neg hKey]
          · intro k hKey
            rw [Table.get?_erase, if_neg hKey]
      | succ left =>
          rw [read_of_lingering hLeft]
          refine { AgreesBeside.refl key c with
            terminating := ?_ }
          intro k hKey
          rw [Table.get?_insert, if_neg hKey]

theorem agreesBeside_leaving
    (key : ObjectKey)
    (left : Nat)
    (c : Cluster) :
    AgreesBeside key c (c.leaving key left) := by
  unfold leaving
  split
  · refine { AgreesBeside.refl key c with jobs := ?_ }
    intro k hKey
    rw [Table.get?_erase, if_neg hKey]
  · refine { AgreesBeside.refl key c with terminating := ?_ }
    intro k hKey
    rw [Table.get?_insert, if_neg hKey]

/- To look at a job to be created changes nothing beside the
   one that stands in its place. -/
theorem agreesBeside_submitted
    (job : Job)
    (c : Cluster) :
    AgreesBeside job.key c (c.submitted job) := by
  have hRecorded :
      AgreesBeside job.key c
        { c.heard (.createJob job.key) with
          created := c.created ++ [job] } :=
    { AgreesBeside.refl job.key c with }
  exact hRecorded.trans (agreesBeside_read job.key _)

end Cluster

end Redeploy

------------------------------------------------------------
-- Departure
------------------------------------------------------------

namespace Redeploy

namespace Cluster

/- Whether a deleted job is found by a number of reads more,
   before one that finds it gone. -/
inductive Departs
    (c : Cluster)
    (key : ObjectKey) : Nat → Prop where
  | lingering
      {left : Nat}
      (hLeft : c.terminating.get? key = some left)
      (hStored : c.jobs.contains key = true) :
      Departs c key left
  | gone
      (hStaying : c.terminating.get? key = none)
      (hAbsent : c.jobs.get? key = none) :
      Departs c key 0

variable {c c' : Cluster}
variable {key : ObjectKey}

/- A read that finds the job leaves it one read less. -/
theorem Departs.read_lingering
    {left : Nat}
    (h : c.Departs key (left + 1)) :
    (c.read key).terminating.get? key = some left ∧
      (c.read key).jobs = c.jobs ∧
      c.jobs.contains key = true := by
  cases h with
  | lingering hLeft hStored =>
      rw [Cluster.read_of_lingering hLeft]
      exact ⟨Table.get?_insert_self _ _ _, rfl, hStored⟩

/- After the last read the job is gone, and stays so. -/
theorem Departs.read_gone
    (h : c.Departs key 0) :
    (c.read key).terminating.get? key = none ∧
      (c.read key).jobs.get? key = none := by
  cases h with
  | lingering hLeft hStored =>
      rw [read_of_going hLeft]
      exact ⟨Table.get?_erase_self _ _,
        Table.get?_erase_self _ _⟩
  | gone hStaying hAbsent =>
      rw [read_of_staying hStaying]
      exact ⟨hStaying, hAbsent⟩

/- A job begins to leave with as many reads as the cluster
   lags behind. -/
theorem departs_leaving
    (hStaying : c.terminating.get? key = none)
    (hStored : c.jobs.contains key = true) :
    (c.leaving key c.deletionLag).Departs key
      c.deletionLag := by
  unfold leaving
  by_cases hLag : c.deletionLag = 0
  · rw [if_pos hLag, if_pos hLag, hLag]
    exact .gone hStaying (Table.get?_erase_self _ _)
  · rw [if_neg hLag, if_neg hLag]
    exact .lingering (Table.get?_insert_self _ _ _) hStored

/- What only records or is scripted has no part in it. -/
theorem Departs.congr
    {left : Nat}
    (h : c.Departs key left)
    (hTerminating : c'.terminating = c.terminating)
    (hJobs : c'.jobs = c.jobs) :
    c'.Departs key left := by
  cases h with
  | lingering hLeft hStored =>
      refine .lingering ?_ ?_
      · rw [hTerminating, hLeft]
      · rw [hJobs, hStored]
  | gone hStaying hAbsent =>
      refine .gone ?_ ?_
      · rw [hTerminating, hStaying]
      · rw [hJobs, hAbsent]

/- Whether a deleted job is found by one read more at
   least. -/
def Lingers
    (c : Cluster)
    (key : ObjectKey) : Prop :=
  ∃ left, c.terminating.get? key = some (left + 1)

/- A job is terminating after a read exactly if that read was
   to find it. -/
theorem contains_read_iff :
    (c.read key).terminating.contains key = true ↔
      c.Lingers key := by
  rw [Table.contains_iff, Lingers]
  cases hLeft : c.terminating.get? key with
  | none => simp [read_of_staying hLeft, hLeft]
  | some left =>
      cases left with
      | zero => simp [read_of_going hLeft]
      | succ left => simp [read_of_lingering hLeft]

end Cluster

end Redeploy
