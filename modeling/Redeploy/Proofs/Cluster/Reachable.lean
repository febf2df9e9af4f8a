import Redeploy.Proofs.Cluster.Request

/-
  The clusters that can come about.

  Key definitions include:
    * `Cluster.Move`
    * `Cluster.Reachable`
    * `Cluster.stored?`
    * `Cluster.Within`, `Cluster.Stepped`
    * `Cluster.Sound`

  Main results:
    * `Cluster.stepped`
    * `Cluster.Sound.move`
    * `Cluster.Reachable.sound`

  A cluster is reachable if it comes from an empty one by
  setting it up and making requests, in any order.  A move
  either stores one object, a job as the next version, or it
  stores none and at most takes some away.  So what is stored
  in a reachable cluster stands under its own key, and each
  job was stored as a version of its own.
-/

------------------------------------------------------------
-- Moves
------------------------------------------------------------

namespace Redeploy

namespace Cluster

/- What can be done to a cluster: setting it up, and the six
   requests. -/
inductive Move where
  | storeJob (job : Job)
  | storePod (pod : Pod)
  | storeNode (node : Node)
  | setDeletionLag (reads : Nat)
  | queueFailure (operation : Operation) (status : Status)
  | queuePass (operation : Operation)
  | getJob (key : ObjectKey)
  | createJob (job : Job)
  | deleteJob
      (key : ObjectKey)
      (propagation : Option Propagation)
  | listPods (ns selector : String)
  | deletePod (key : ObjectKey)
  | listNodes (selector : String)

/- Where a move leaves a cluster. -/
def move
    (c : Cluster) : Move → Cluster
  | .storeJob job => (c.storeJob job).2
  | .storePod pod => c.storePod pod
  | .storeNode node => c.storeNode node
  | .setDeletionLag reads => c.withDeletionLag reads
  | .queueFailure operation status =>
      c.queueFailure operation status
  | .queuePass operation => c.queuePass operation
  | .getJob key => (Cluster.getJob key c).2
  | .createJob job => (Cluster.createJob job c).2
  | .deleteJob key propagation =>
      (Cluster.deleteJob key propagation c).2
  | .listPods ns selector =>
      (Cluster.listPods ns selector c).2
  | .deletePod key => (Cluster.deletePod key c).2
  | .listNodes selector => (Cluster.listNodes selector c).2

/- Whether a cluster comes from an empty one, which gives
   uids in some way, by moves. -/
def Reachable
    (c : Cluster) : Prop :=
  ∃ (uidOf : Nat → String) (moves : List Move),
    moves.foldl move { uidOf } = c

end Cluster

end Redeploy

------------------------------------------------------------
-- Single Moves
------------------------------------------------------------

namespace Redeploy

namespace Cluster

/- The job that a move stores, set up or created. -/
def stored?
    (c : Cluster) : Move → Option Job
  | .storeJob job => some (c.storeJob job).1
  | .createJob job =>
      match (Cluster.createJob job c).1 with
      | .ok stored => some stored
      | .error _ => none
  | _ => none

/- Whether nothing was stored in a cluster since it was as an
   earlier one, though something may have been taken away. -/
structure Within
    (c c' : Cluster) : Prop where
  version : c'.version = c.version
  jobs :
    ∀ key job, c'.jobs.get? key = some job →
      c.jobs.get? key = some job
  pods :
    ∀ key pod, c'.pods.get? key = some pod →
      c.pods.get? key = some pod
  nodes :
    ∀ name node, c'.nodes.get? name = some node →
      c.nodes.get? name = some node
  /- Only jobs that are there are terminating still. -/
  terminating_stored :
    (∀ key, c.terminating.contains key = true →
      c.jobs.contains key = true) →
    ∀ key, c'.terminating.contains key = true →
      c'.jobs.contains key = true

variable {c c' c'' : Cluster}
variable {key : ObjectKey}

theorem Within.refl
    (c : Cluster) :
    Within c c where
  version := rfl
  jobs _ _ hJob := hJob
  pods _ _ hPod := hPod
  nodes _ _ hNode := hNode
  terminating_stored h := h

theorem Within.trans
    (h : Within c c')
    (h' : Within c' c'') :
    Within c c'' where
  version := h'.version.trans h.version
  jobs key job hJob := h.jobs key job (h'.jobs key job hJob)
  pods key pod hPod := h.pods key pod (h'.pods key pod hPod)
  nodes name node hNode :=
    h.nodes name node (h'.nodes name node hNode)
  terminating_stored hStored :=
    h'.terminating_stored (h.terminating_stored hStored)

/- To hear of a call stores nothing. -/
theorem within_heard
    (c : Cluster)
    (call : Call) :
    Within c (c.heard call) :=
  { Within.refl c with }

/- A job may be taken away where it is not terminating any
   more. -/
theorem within_eraseJob
    {terminating : Table ObjectKey Nat}
    (hSubset :
      ∀ k, terminating.contains k = true →
        k ≠ key ∧ c.terminating.contains k = true) :
    Within c
      { c with
        jobs := c.jobs.erase key
        terminating := terminating } := by
  refine { Within.refl c with
    jobs := ?_, terminating_stored := ?_ }
  · intro k job hJob
    rw [Table.get?_erase] at hJob
    split at hJob
    · cases hJob
    · exact hJob
  · intro hStored k hTerminating
    rcases hSubset k hTerminating with ⟨hKey, hBefore⟩
    change ((c.jobs.erase key).get? k).isSome = true
    rw [Table.get?_erase, if_neg hKey]
    exact hStored k hBefore

/- A job that is there may begin or go on to terminate. -/
theorem within_terminate
    (hThere :
      c.terminating.contains key = true ∨
        c.jobs.contains key = true)
    (left : Nat) :
    Within c
      { c with
        terminating := c.terminating.insert key left } := by
  refine { Within.refl c with terminating_stored := ?_ }
  intro hStored k hTerminating
  rw [Table.contains, Table.get?_insert] at hTerminating
  split at hTerminating
  next hKey =>
    subst hKey
    exact hThere.elim (hStored k) id
  next => exact hStored k hTerminating

theorem within_read
    (c : Cluster)
    (key : ObjectKey) :
    Within c (c.read key) := by
  cases hLeft : c.terminating.get? key with
  | none =>
      rw [read_of_staying hLeft]
      exact .refl c
  | some left =>
      cases left with
      | zero =>
          rw [read_of_going hLeft]
          apply within_eraseJob
          intro k hTerminating
          rw [Table.contains, Table.get?_erase]
            at hTerminating
          split at hTerminating
          · cases hTerminating
          next hKey => exact ⟨hKey, hTerminating⟩
      | succ left =>
          rw [read_of_lingering hLeft]
          exact within_terminate
            (.inl (Table.contains_iff.mpr ⟨_, hLeft⟩)) left

theorem within_submitted
    (c : Cluster)
    (job : Job) :
    Within c (c.submitted job) := by
  have hHeard :
      Within c
        { c.heard (.createJob job.key) with
          created := c.created ++ [job] } :=
    { Within.refl c with }
  exact hHeard.trans (within_read _ job.key)

theorem within_leaving
    (c : Cluster)
    (hStaying : c.terminating.get? key = none)
    (hStored : c.jobs.contains key = true)
    (left : Nat) :
    Within c (c.leaving key left) := by
  unfold Cluster.leaving
  split
  · apply within_eraseJob
    intro k hTerminating
    refine ⟨?_, hTerminating⟩
    rintro rfl
    rw [Table.contains, hStaying] at hTerminating
    cases hTerminating
  · exact within_terminate (.inr hStored) left

/- A pod may be taken away at any time. -/
theorem within_erasePod
    (c : Cluster)
    (key : ObjectKey) :
    Within c { c with pods := c.pods.erase key } := by
  refine { Within.refl c with pods := ?_ }
  intro k pod hPod
  rw [Table.get?_erase] at hPod
  split at hPod
  · cases hPod
  · exact hPod

/- All that a move can do to what a cluster stores. -/
inductive Stepped
    (c : Cluster)
    (move : Move) : Prop where
  | job
      {before : Cluster}
      {job : Job}
      (hBefore : Within c before)
      (hStored :
        c.stored? move = some (before.storeJob job).1)
      (hAfter : c.move move = (before.storeJob job).2)
  | pod
      {pod : Pod}
      (hStored : c.stored? move = none)
      (hAfter : c.move move = c.storePod pod)
  | node
      {node : Node}
      (hStored : c.stored? move = none)
      (hAfter : c.move move = c.storeNode node)
  | none
      (hStored : c.stored? move = none)
      (hAfter : Within c (c.move move))

theorem stepped
    (c : Cluster)
    (move : Move) :
    c.Stepped move := by
  cases move with
  | storeJob job => exact .job (.refl c) rfl rfl
  | storePod pod => exact .pod rfl rfl
  | storeNode node => exact .node rfl rfl
  | setDeletionLag reads =>
      exact .none rfl { Within.refl c with }
  | queueFailure operation status =>
      exact .none rfl { Within.refl c with }
  | queuePass operation =>
      exact .none rfl { Within.refl c with }
  | getJob key =>
      refine .none rfl ?_
      have hRun :
          Cluster.getJob key c =
            (_, c.move (.getJob key)) :=
        rfl
      rcases getJob_cases hRun with
        ⟨_, _, _, hAfter⟩ | ⟨_, hAfter, _⟩
      · rw [hAfter]
        exact within_heard c _
      · rw [hAfter]
        exact (within_heard c _).trans (within_read _ key)
  | createJob job =>
      have hRun :
          Cluster.createJob job c =
            ((Cluster.createJob job c).1,
              c.move (.createJob job)) :=
        rfl
      rcases createJob_cases hRun with
        ⟨_, _, hAnswer, hAfter⟩ | ⟨_, _, hAnswer, hAfter⟩ |
          ⟨_, _, _, hAnswer, hAfter⟩ |
          ⟨_, _, hAnswer, hAfter⟩
      · refine .none (by simp only [stored?, hAnswer]) ?_
        rw [hAfter]
        exact within_heard c _
      · refine .none (by simp only [stored?, hAnswer]) ?_
        rw [hAfter]
        exact within_submitted c job
      · refine .none (by simp only [stored?, hAnswer]) ?_
        rw [hAfter]
        exact within_submitted c job
      · exact .job (within_submitted c job)
          (by simp only [stored?, hAnswer]) hAfter
  | deleteJob key propagation =>
      refine .none rfl ?_
      have hRun :
          Cluster.deleteJob key propagation c =
            (_, c.move (.deleteJob key propagation)) :=
        rfl
      rcases deleteJob_cases hRun with
        ⟨_, _, _, hAfter⟩ | ⟨_, _, _, hAfter⟩ |
          ⟨_, hStaying, hStored, _, hAfter⟩
      · rw [hAfter]
        exact within_heard c _
      · rw [hAfter]
        exact within_heard c _
      · rw [hAfter]
        let heard :=
          c.heard (.deleteJob key propagation)
        exact (within_heard c _).trans
          (within_leaving heard hStaying hStored _)
  | listPods ns selector =>
      refine .none rfl ?_
      have hRun :
          Cluster.listPods ns selector c =
            (_, c.move (.listPods ns selector)) :=
        rfl
      rcases listPods_cases hRun with
        ⟨_, _, _, hAfter⟩ | ⟨_, _, hAfter⟩
      · rw [hAfter]
        exact within_heard c _
      · rw [hAfter]
        exact within_heard c _
  | deletePod key =>
      refine .none rfl ?_
      have hRun :
          Cluster.deletePod key c =
            (_, c.move (.deletePod key)) :=
        rfl
      rcases deletePod_cases hRun with
        ⟨_, _, _, hAfter⟩ | ⟨_, _, hAfter⟩
      · rw [hAfter]
        exact within_heard c _
      · rw [hAfter]
        exact (within_heard c _).trans (within_erasePod _ key)
  | listNodes selector =>
      refine .none rfl ?_
      have hRun :
          Cluster.listNodes selector c =
            (_, c.move (.listNodes selector)) :=
        rfl
      rcases listNodes_cases hRun with
        ⟨_, _, _, hAfter⟩ | ⟨_, _, hAfter⟩
      · rw [hAfter]
        exact within_heard c _
      · rw [hAfter]
        exact within_heard c _

end Cluster

end Redeploy

------------------------------------------------------------
-- Soundness
------------------------------------------------------------

namespace Redeploy

namespace Cluster

/- Whether what a cluster stores is in its place. -/
structure Sound
    (c : Cluster) : Prop where
  /- Only jobs that are there can be terminating. -/
  terminating_stored :
    ∀ key, c.terminating.contains key = true →
      c.jobs.contains key = true
  job_key :
    ∀ key job, c.jobs.get? key = some job → job.key = key
  job_uid :
    ∀ key job, c.jobs.get? key = some job →
      job.metadata.uid.isSome = true
  /- Each job carries the version that it was stored as. -/
  job_version :
    ∀ key job, c.jobs.get? key = some job →
      ∃ version, 0 < version ∧ version ≤ c.version ∧
        job.metadata.resourceVersion =
          some (toString version)
  /- No two jobs were stored as the same version. -/
  version_key :
    ∀ key key' job job', c.jobs.get? key = some job →
      c.jobs.get? key' = some job' →
      job.metadata.resourceVersion =
        job'.metadata.resourceVersion →
      key = key'
  pod_key :
    ∀ key pod, c.pods.get? key = some pod → pod.key = key
  node_name :
    ∀ name node, c.nodes.get? name = some node →
      node.name = name

theorem sound_empty
    (uidOf : Nat → String) :
    Sound { uidOf } where
  terminating_stored _ h := by simp [Table.contains] at h
  job_key _ _ h := by simp at h
  job_uid _ _ h := by simp at h
  job_version _ _ h := by simp at h
  version_key _ _ _ _ h := by simp at h
  pod_key _ _ h := by simp at h
  node_name _ _ h := by simp at h

variable {c c' : Cluster}

/- Nothing gets out of place where nothing is stored. -/
theorem Within.sound
    (h : Within c c')
    (hSound : c.Sound) :
    c'.Sound where
  terminating_stored :=
    h.terminating_stored hSound.terminating_stored
  job_key key job hJob :=
    hSound.job_key key job (h.jobs _ _ hJob)
  job_uid key job hJob :=
    hSound.job_uid key job (h.jobs _ _ hJob)
  job_version key job hJob := by
    rw [h.version]
    exact hSound.job_version key job (h.jobs _ _ hJob)
  version_key key key' job job' hJob hJob' hSame :=
    hSound.version_key key key' job job' (h.jobs _ _ hJob)
      (h.jobs _ _ hJob') hSame
  pod_key key pod hPod :=
    hSound.pod_key key pod (h.pods _ _ hPod)
  node_name name node hNode :=
    hSound.node_name name node (h.nodes _ _ hNode)

end Cluster

end Redeploy

------------------------------------------------------------
-- Stored Jobs
------------------------------------------------------------

namespace Redeploy

/- Different numbers have different texts. -/
theorem toString_injective
    {m n : Nat}
    (h : toString m = toString n) :
    m = n := by
  have hDigits : Nat.toDigits 10 m = Nat.toDigits 10 n := by
    rw [← Nat.toList_repr, ← Nat.toList_repr]
    exact congrArg String.toList h
  have hValue := congrArg (Nat.ofDigitChars 10 · 0) hDigits
  simpa using hValue

namespace Cluster

variable {c : Cluster}

/- A version to come is the version of no job. -/
theorem Sound.fresh_version
    (h : c.Sound)
    {key : ObjectKey}
    {job : Job}
    (hJob : c.jobs.get? key = some job) :
    job.metadata.resourceVersion ≠
      some (toString (c.version + 1)) := by
  rcases h.job_version key job hJob with
    ⟨version, -, hBound, hVersion⟩
  rw [hVersion]
  intro hSame
  have hEq := toString_injective (Option.some.inj hSame)
  omega

theorem Sound.storeJob
    (h : c.Sound)
    (job : Job) :
    (c.storeJob job).2.Sound := by
  let stored :=
    versioned (c.uidOf (c.version + 1)) (c.version + 1) job
  have hGet (k : ObjectKey) :
      (c.storeJob job).2.jobs.get? k =
        if k = job.key then some stored
        else c.jobs.get? k :=
    Table.get?_insert c.jobs job.key k stored
  have hVersion :
      stored.metadata.resourceVersion =
        some (toString (c.version + 1)) :=
    rfl
  refine
    { terminating_stored := ?_
      job_key := ?_
      job_uid := ?_
      job_version := ?_
      version_key := ?_
      pod_key := h.pod_key
      node_name := h.node_name }
  · intro k hTerminating
    rw [Table.contains, hGet]
    split
    · rfl
    · exact h.terminating_stored k hTerminating
  · intro k other hOther
    rw [hGet] at hOther
    split at hOther
    next hKey =>
      cases hOther
      exact hKey.symm
    next => exact h.job_key k other hOther
  · intro k other hOther
    rw [hGet] at hOther
    split at hOther
    next =>
      cases hOther
      change (job.metadata.uid <|> some _).isSome = true
      cases job.metadata.uid <;> rfl
    next => exact h.job_uid k other hOther
  · intro k other hOther
    rw [hGet] at hOther
    change ∃ version, 0 < version ∧
      version ≤ c.version + 1 ∧ _
    split at hOther
    next =>
      cases hOther
      exact ⟨c.version + 1, by omega, by omega, hVersion⟩
    next =>
      rcases h.job_version k other hOther with
        ⟨version, hPos, hBound, hEq⟩
      exact ⟨version, hPos, by omega, hEq⟩
  · intro k k' other other' hOther hOther' hSame
    rw [hGet] at hOther hOther'
    split at hOther <;> split at hOther'
    next hKey hKey' => rw [hKey, hKey']
    next =>
      cases hOther
      exact absurd (hSame.symm.trans hVersion)
        (h.fresh_version hOther')
    next =>
      cases hOther'
      exact absurd (hSame.trans hVersion)
        (h.fresh_version hOther)
    next => exact h.version_key k k' _ _ hOther hOther' hSame

end Cluster

end Redeploy

------------------------------------------------------------
-- Reachable Clusters
------------------------------------------------------------

namespace Redeploy

namespace Cluster

variable {c : Cluster}

theorem Sound.storePod
    (h : c.Sound)
    (pod : Pod) :
    (c.storePod pod).Sound :=
  { h with
    pod_key := by
      intro key other hOther
      replace hOther :
          (c.pods.insert pod.key pod).get? key =
            some other := hOther
      rw [Table.get?_insert] at hOther
      split at hOther
      next hKey =>
        cases hOther
        exact hKey.symm
      next => exact h.pod_key key other hOther }

theorem Sound.storeNode
    (h : c.Sound)
    (node : Node) :
    (c.storeNode node).Sound :=
  { h with
    node_name := by
      intro name other hOther
      replace hOther :
          (c.nodes.insert node.name node).get? name =
            some other := hOther
      rw [Table.get?_insert] at hOther
      split at hOther
      next hName =>
        cases hOther
        exact hName.symm
      next => exact h.node_name name other hOther }

/- No move gets a cluster out of place. -/
theorem Sound.move
    (h : c.Sound)
    (move : Move) :
    (c.move move).Sound := by
  cases c.stepped move with
  | job hBefore _ hAfter =>
      rw [hAfter]
      exact (hBefore.sound h).storeJob _
  | pod _ hAfter =>
      rw [hAfter]
      exact h.storePod _
  | node _ hAfter =>
      rw [hAfter]
      exact h.storeNode _
  | none _ hAfter => exact hAfter.sound h

/- What is stored in a reachable cluster is in its place. -/
theorem Reachable.sound
    (h : c.Reachable) :
    c.Sound := by
  rcases h with ⟨uidOf, moves, rfl⟩
  have hMoves :
      ∀ start : Cluster, start.Sound →
        (moves.foldl Cluster.move start).Sound := by
    induction moves with
    | nil => exact fun _ hStart => hStart
    | cons move rest ih =>
        intro start hStart
        exact ih _ (hStart.move move)
  exact hMoves _ (sound_empty uidOf)

end Cluster

end Redeploy
