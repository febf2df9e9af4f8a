import Redeploy.Proofs.Cluster.Reachable

/-
  The order in which jobs are stored.

  Key definitions include:
    * `Cluster.storedAlong`
    * `Job.StoredBefore`

  Main results:
    * `Cluster.stepped_jobs`
    * `Cluster.version_run`
    * `Cluster.storedAlong_versions`
    * `Cluster.stored_last`
    * `Cluster.stores_in_order`

  A move that stores a job stores it as the next version, and
  no other move takes a version.  So the stores of a run
  carry one version after the other, and what a cluster holds
  under a key is what was stored there last.
-/

------------------------------------------------------------
-- Stores
------------------------------------------------------------

namespace Redeploy

namespace Cluster

/- The jobs that are stored along some moves, in order. -/
def storedAlong :
    Cluster → List Move → List Job
  | _, [] => []
  | c, move :: moves =>
      (c.stored? move).toList ++
        storedAlong (c.move move) moves

end Cluster

/- Whether a job was stored as an earlier version than
   another one. -/
def Job.StoredBefore
    (earlier later : Job) : Prop :=
  ∃ m n : Nat, m < n ∧
    earlier.metadata.resourceVersion = some (toString m) ∧
    later.metadata.resourceVersion = some (toString n)

end Redeploy

------------------------------------------------------------
-- Single Moves
------------------------------------------------------------

namespace Redeploy

namespace Cluster

variable {c : Cluster}
variable {key : ObjectKey}
variable {job : Job}

/- As far as jobs are concerned, a move stores one or at most
   takes some away. -/
theorem stepped_jobs
    (c : Cluster)
    (move : Move) :
    (∃ before job, Within c before ∧
      c.stored? move = some (before.storeJob job).1 ∧
      c.move move = (before.storeJob job).2) ∨
    (c.stored? move = none ∧
      (c.move move).version = c.version ∧
      ∀ key job, (c.move move).jobs.get? key = some job →
        c.jobs.get? key = some job) := by
  cases c.stepped move with
  | job hBefore hStored hAfter =>
      exact .inl ⟨_, _, hBefore, hStored, hAfter⟩
  | pod hStored hAfter =>
      rw [hAfter]
      exact .inr ⟨hStored, rfl, fun _ _ hJob => hJob⟩
  | node hStored hAfter =>
      rw [hAfter]
      exact .inr ⟨hStored, rfl, fun _ _ hJob => hJob⟩
  | none hStored hAfter =>
      exact .inr ⟨hStored, hAfter.version, hAfter.jobs⟩

/- Each store takes one version, and nothing else takes
   any. -/
theorem version_move
    (c : Cluster)
    (move : Move) :
    (c.move move).version =
      c.version + (c.stored? move).toList.length := by
  rcases stepped_jobs c move with
    ⟨before, job, hBefore, hStored, hAfter⟩ |
      ⟨hStored, hVersion, -⟩
  · rw [hAfter, hStored, ← hBefore.version]
    rfl
  · rw [hVersion, hStored]
    rfl

/- What a move stores is stored as the next version. -/
theorem stored?_versions
    (c : Cluster)
    (move : Move) :
    (c.stored? move).toList.map
        (·.metadata.resourceVersion) =
      (List.range' (c.version + 1)
        (c.stored? move).toList.length).map
        (some <| toString ·) := by
  rcases stepped_jobs c move with
    ⟨before, job, hBefore, hStored, -⟩ | ⟨hStored, -⟩
  · rw [hStored, ← hBefore.version]
    rfl
  · rw [hStored]
    rfl

/- What is there after a move was stored by it or was there
   before. -/
theorem jobs_move
    {move : Move}
    (h : (c.move move).jobs.get? key = some job) :
    ((c.stored? move).toList.filter
        (·.key = key)).getLast?.or (c.jobs.get? key) =
      some job := by
  rcases stepped_jobs c move with
    ⟨before, new, hBefore, hStored, hAfter⟩ |
      ⟨hStored, -, hJobs⟩
  · have hKey : (before.storeJob new).1.key = new.key := rfl
    rw [hAfter] at h
    replace h :
        (before.jobs.insert new.key
          (before.storeJob new).1).get? key =
          some job := h
    rw [Table.get?_insert] at h
    rw [hStored, Option.toList_some]
    split at h
    next hSame =>
      rw [List.filter_cons_of_pos (by simp [hKey, hSame])]
      exact h
    next hOther =>
      rw [List.filter_cons_of_neg
        (by simp [hKey, Ne.symm hOther])]
      exact hBefore.jobs key job h
  · rw [hStored]
    exact hJobs key job h

end Cluster

end Redeploy

------------------------------------------------------------
-- Runs
------------------------------------------------------------

namespace Redeploy

namespace Cluster

variable {c : Cluster}
variable {key : ObjectKey}
variable {job : Job}

theorem version_run
    (c : Cluster)
    (moves : List Move) :
    (moves.foldl move c).version =
      c.version + (storedAlong c moves).length := by
  induction moves generalizing c with
  | nil => rfl
  | cons move moves ih =>
      rw [List.foldl_cons, ih, version_move, storedAlong,
        List.length_append, Nat.add_assoc]

/- The stores of a run carry the versions that follow, one
   after the other. -/
theorem storedAlong_versions
    (c : Cluster)
    (moves : List Move) :
    (storedAlong c moves).map (·.metadata.resourceVersion) =
      (List.range' (c.version + 1)
        (storedAlong c moves).length).map
        (some <| toString ·) := by
  induction moves generalizing c with
  | nil => rfl
  | cons move moves ih =>
      rw [storedAlong, List.map_append, List.length_append,
        stored?_versions, ih, version_move,
        ← List.map_append]
      rw [Nat.add_right_comm, List.range'_append_1]

/- Of the stores of a run, an earlier one carries a smaller
   version. -/
theorem storedAlong_pairwise
    (c : Cluster)
    (moves : List Move) :
    (storedAlong c moves).Pairwise Job.StoredBefore := by
  let Before (v w : Option String) : Prop :=
    ∃ m n : Nat, m < n ∧ v = some (toString m) ∧
      w = some (toString n)
  have hVersions :
      ((storedAlong c moves).map
        (·.metadata.resourceVersion)).Pairwise Before := by
    rw [storedAlong_versions, List.pairwise_map]
    exact (List.pairwise_lt_range' 1).imp
      fun hLess => ⟨_, _, hLess, rfl, rfl⟩
  have hStores := List.pairwise_map.mp hVersions
  exact hStores

/- What a run leaves under a key is what it stored there
   last, if it stored anything there. -/
theorem stored_last
    {moves : List Move}
    (h : (moves.foldl move c).jobs.get? key = some job) :
    ((storedAlong c moves).filter
        (·.key = key)).getLast?.or (c.jobs.get? key) =
      some job := by
  induction moves generalizing c with
  | nil => exact h
  | cons move moves ih =>
      have hRest := ih h
      rw [storedAlong, List.filter_append,
        List.getLast?_append, Option.or_assoc]
      cases hLast :
          ((storedAlong (c.move move) moves).filter
            (·.key = key)).getLast? with
      | none =>
          rw [hLast] at hRest
          exact jobs_move hRest
      | some last =>
          rw [hLast] at hRest
          exact hRest

/-
  Whatever is done to an empty cluster, all that it stores is
  in its place, and what it stores under one key carries
  greater and greater versions, the last of which is the one
  that is there.  The version counter is the number of
  stores: 64 bits have room for it while there are fewer
  than 2^64 of them.
-/
theorem stores_in_order
    (uidOf : Nat → String)
    (moves : List Move) :
    let c := moves.foldl move { uidOf }
    let stores := storedAlong { uidOf } moves
    c.Sound ∧
    c.version = stores.length ∧
    ∀ key,
      (stores.filter (·.key = key)).Pairwise
        Job.StoredBefore ∧
      ∀ job, c.jobs.get? key = some job →
        (stores.filter (·.key = key)).getLast? =
          some job := by
  intro c stores
  have hReachable : c.Reachable := ⟨uidOf, moves, rfl⟩
  refine ⟨hReachable.sound, ?_, ?_⟩
  · exact (version_run _ moves).trans (Nat.zero_add _)
  intro key
  refine ⟨(storedAlong_pairwise _ moves).filter _, ?_⟩
  intro job hJob
  have hLast := stored_last hJob
  rwa [Table.get?_empty, Option.or_none] at hLast

end Cluster

end Redeploy
