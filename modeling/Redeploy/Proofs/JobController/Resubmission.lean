import Redeploy.Proofs.JobController.Submission

/-
  Jobs that are submitted again.

  Key definitions include:
    * `Cluster.Hands`

  Main results:
    * `JobController.upsert_eq_of_forCreate`
    * `JobController.submitted_iff_of_forCreate`
    * `Cluster.Hands.versioned`
    * `JobController.upsert_submits`

  An upsert looks at no more of its job than is submitted.
  So it does not matter whether the job of the user is wanted
  or the one that the cluster made of it: the two upserts are
  one action.
-/

------------------------------------------------------------
-- What an Upsert Depends on
------------------------------------------------------------

namespace Redeploy

variable {σ Object : Type}

/- A replacement looks at no more of an identity than the
   kind and the key. -/
theorem Workload.upsert_identity
    (workload : Workload σ Object)
    (identity : Identity)
    (hKind : identity.kind = workload.identity.kind)
    (hKey : identity.key = workload.identity.key)
    (backoff : BackoffPolicy) :
    { workload with identity }.upsert backoff =
      workload.upsert backoff := by
  have hNs : identity.ns = workload.identity.ns :=
    congrArg ObjectKey.ns hKey
  unfold upsert clear deletePods current?
  dsimp only
  rw [hKind, hKey, hNs]

namespace JobController

variable {c c' : JobController σ}

/- Jobs that shed to the same have the same place. -/
theorem key_eq_of_forCreate
    (hSent : c'.job.forCreate = c.job.forCreate) :
    c'.key = c.key := by
  have hKey : c'.job.forCreate.key = c.job.forCreate.key := by
    rw [hSent]
  exact hKey

/- Controllers that submit the same have the same
   capabilities. -/
theorem workload_eq_of_forCreate
    (hClient : c'.client = c.client)
    (hSent : c'.job.forCreate = c.job.forCreate) :
    c'.workload =
      { c.workload with identity := c'.identity } := by
  have hKey := key_eq_of_forCreate hSent
  have hNs : c'.identity.ns = c.identity.ns :=
    congrArg ObjectKey.ns hKey
  have hPath : c'.identity.path = c.identity.path :=
    congrArg ObjectKey.path hKey
  have hSpan : c'.span = c.span := by
    unfold span
    rw [hPath]
    rfl
  have hFind : c'.find = c.find := by
    unfold find
    rw [hClient, hKey]
  have hStatus : c'.status = c.status := by
    unfold status
    rw [hFind]
  have hCreate : c'.create = c.create := by
    unfold create
    rw [hClient, hSent, hPath]
  unfold workload
  rw [hClient, hKey, hNs, hSpan, hFind, hStatus, hCreate]

/- Controllers that submit the same, by the same policy,
   upsert alike. -/
theorem upsert_eq_of_forCreate
    (hClient : c'.client = c.client)
    (hSent : c'.job.forCreate = c.job.forCreate)
    (hBackoff :
      c'.settings.createBackoff = c.settings.createBackoff) :
    c'.upsert = c.upsert := by
  have hWorkload := workload_eq_of_forCreate hClient hSent
  have hSpan : c'.span = c.span :=
    Option.some.inj (congrArg Workload.span hWorkload)
  unfold upsert
  rw [hSpan, hWorkload, hBackoff]
  exact congrArg (Act.within _)
    (c.workload.upsert_identity c'.identity rfl
      (key_eq_of_forCreate hSent) _)

end JobController

namespace JobController

variable {c c' : JobController Cluster}

theorem submitted_iff_of_forCreate
    (hClient : c'.client = c.client)
    (hSent : c'.job.forCreate = c.job.forCreate)
    (hBackoff :
      c'.settings.createBackoff = c.settings.createBackoff)
    (sent : Job)
    (times : Nat)
    (w : World Cluster) :
    c'.Submitted sent times w ↔ c.Submitted sent times w := by
  have hRecorded : c'.recorded.upsert = c.recorded.upsert :=
    upsert_eq_of_forCreate (congrArg Client.recorded hClient)
      hSent hBackoff
  unfold Submitted
  rw [hRecorded,
    upsert_eq_of_forCreate hClient hSent hBackoff]

end JobController

end Redeploy

------------------------------------------------------------
-- Jobs as a Cluster Knows Them
------------------------------------------------------------

namespace Redeploy

/- What a cluster gives out for a job. -/
inductive Cluster.Hands
    (job : Job) : Job → Prop where
  /- The job as it is stored. -/
  | stored
      (c : Cluster) :
      Hands job (c.storeJob job).1
  /- The job as the answer to its creation. -/
  | created
      {c c' : Cluster}
      {served : Job}
      (hCreate : Cluster.createJob job c = (.ok served, c')) :
      Hands job served
  /- Whatever of it is in its place when it is read. -/
  | read
      {c c' : Cluster}
      {key : ObjectKey}
      {held served : Job}
      (hHeld : Hands job held)
      (hStored : c.jobs.get? key = some held)
      (hGet : Cluster.getJob key c = (.ok served, c')) :
      Hands job served

/- A job is given out under a uid and a version, and else as
   it is. -/
theorem Cluster.Hands.versioned
    {job served : Job}
    (h : Cluster.Hands job served) :
    ∃ uid version,
      served = Cluster.versioned uid version job := by
  induction h with
  | stored c => exact ⟨_, _, rfl⟩
  | created hCreate =>
      rcases createJob_cases hCreate with
        ⟨_, -, hAnswer, -⟩ | ⟨-, -, hAnswer, -⟩ |
          ⟨-, -, -, hAnswer, -⟩ | ⟨-, -, hAnswer, -⟩
      · cases hAnswer
      · cases hAnswer
      · cases hAnswer
      · cases hAnswer
        exact ⟨_, _, rfl⟩
  | read _ hStored hGet ih =>
      rcases getJob_cases hGet with
        ⟨_, -, hAnswer, -⟩ | ⟨-, hAfter, hAnswer⟩
      · cases hAnswer
      · rw [hAfter] at hAnswer
        unfold found at hAnswer
        split at hAnswer
        next hFound =>
          cases hAnswer
          have hSame := (within_read _ _).jobs _ _ hFound
          rw [heard_jobs, hStored] at hSame
          cases hSame
          exact ih
        next => cases hAnswer

namespace JobController

/- What is submitted for a job depends only on what the job
   sheds to. -/
theorem submission_eq
    (job : Job) :
    submission job =
      { job.forCreate with
        metadata :=
          { job.forCreate.metadata with
            ns := some job.forCreate.target.ns } } := by
  rw [submission, inNamespace_eq]
  rfl

/- A job that a cluster gives out is submitted as the one
   that it was given. -/
theorem submission_of_hands
    {job marked served : Job}
    (hMarked : marked.forCreate = job.forCreate)
    (hHands : Cluster.Hands marked served) :
    served.metadata.nameText = job.metadata.nameText ∧
      submission served = submission job := by
  rcases hHands.versioned with ⟨uid, version, rfl⟩
  have hShed :
      (Cluster.versioned uid version marked).forCreate =
        job.forCreate :=
    hMarked
  constructor
  · have hName :
        (Cluster.versioned uid version
            marked).forCreate.metadata.nameText =
          job.forCreate.metadata.nameText := by
      rw [hShed]
    exact hName
  · rw [submission_eq, hShed, ← submission_eq]

/-
  What is submitted for a job is that job without what only a
  server can give to it, so it is never a bad request by
  itself.  An upsert submits nothing else, and it does submit
  unless it is hindered.  To have the job, or one that sheds
  to the same, from the cluster makes no difference: the same
  is submitted, and by the same policy it is the same action
  and submits as often.
-/
theorem upsert_submits
    {job : Job}
    {settings : Settings}
    {controller : JobController Cluster}
    (hAccepted :
      ofJob job (some Cluster.client) settings =
        .ok controller) :
    (∀ wanted sent : Job,
      wanted.Sheds sent ↔ sent = wanted.forCreate) ∧
    (∀ wanted : Job,
      wanted.forCreate.forCreate = wanted.forCreate) ∧
    (∀ c c' status,
      Cluster.createJob controller.job.forCreate c =
          (.error (.status status), c') →
        status.code = 400 →
        some status ∈ c.script .createJob) ∧
    (∀ w, ∃ times,
      controller.Submitted controller.job.forCreate
        times w) ∧
    (∀ marked served settings',
      marked.forCreate = job.forCreate →
      Cluster.Hands marked served →
      ∃ again,
        ofJob served (some Cluster.client) settings' =
            .ok again ∧
          (∀ w, ∃ times,
            again.Submitted controller.job.forCreate
              times w) ∧
          (settings'.createBackoff =
              settings.createBackoff →
            again.upsert = controller.upsert ∧
            ∀ sent times w,
              again.Submitted sent times w ↔
                controller.Submitted sent times w)) := by
  have hName : job.metadata.nameText ≠ "" := by
    intro hEmpty
    simp [ofJob, hEmpty] at hAccepted
  cases eq_onCluster hAccepted
  refine ⟨fun _ _ => Job.sheds_iff, Job.forCreate_forCreate,
    ?_, exists_submitted job settings, ?_⟩
  · intro c c' status hStep hCode
    rcases Cluster.createJob_answers rfl rfl hStep with
      ⟨hAnswers, -⟩
    exact hAnswers.scripted_of_badRequest hCode
  · intro marked served settings' hMarked hHands
    rcases submission_of_hands hMarked hHands with
      ⟨hSameName, hSame⟩
    have hServed : served.metadata.nameText ≠ "" := by
      rwa [hSameName]
    refine ⟨onCluster served settings',
      ofJob_eq_onCluster hServed settings', ?_, ?_⟩
    · have hSubmits := exists_submitted served settings'
      rw [hSame] at hSubmits
      exact hSubmits
    · intro hBackoff
      exact ⟨upsert_eq_of_forCreate rfl hSame hBackoff,
        submitted_iff_of_forCreate rfl hSame hBackoff⟩

end JobController

namespace Sample

/- A job as its user writes it. -/
def written : Job where
  metadata := { name := some "j", ns := some "a" }
  spec := some
    { selector := some
        { matchLabels := some (.ofList [("app", "x")]) }
      template :=
        { metadata := some { labels := some .empty }
          rest := .ofList [("spec", .object [])] } }

/- The same job as a server marks it for its pods. -/
def marked : Job where
  metadata :=
    { name := some "j", ns := some "a", uid := some "w"
      resourceVersion := some "7", selfLink := some "/j" }
  spec := some
    { selector := some
        { matchLabels := some (.ofList
            [("app", "x"), ("controller-uid", "w")]) }
      template :=
        { metadata := some
            { labels := some (.ofList
                [("batch.kubernetes.io/controller-uid",
                  "w")]) }
          rest := .ofList [("spec", .object [])] } }

end Sample

namespace JobController

/- What is submitted for a job in place of an earlier one,
   and for the same job as a cluster stores it. -/
theorem upsert_submits_marked :
    ofJob Sample.written (some Cluster.client) {} =
        .ok (onCluster Sample.written {}) ∧
      Sample.marked.forCreate = Sample.written.forCreate ∧
      ∃ again,
        ofJob
            (Sample.lagging.system.storeJob Sample.marked).1
            (some Cluster.client) {} =
          .ok again ∧
        ∃ times, 0 < times ∧
          (onCluster Sample.written {}).Submitted
            (submission Sample.written) times
            Sample.lagging ∧
          again.Submitted (submission Sample.written) times
            Sample.lagging := by
  have hAccepted :
      ofJob Sample.written (some Cluster.client) {} =
        .ok (onCluster Sample.written {}) :=
    ofJob_eq_onCluster (by decide) {}
  have hMarked :
      Sample.marked.forCreate = Sample.written.forCreate := by
    decide +kernel
  rcases upsert_submits hAccepted with
    ⟨-, -, -, hSubmits, hAgain⟩
  rcases hSubmits Sample.lagging with ⟨times, hSubmitted⟩
  rcases hAgain Sample.marked _ {} hMarked
      (.stored Sample.lagging.system) with
    ⟨again, hServed, -, hAlike⟩
  have hGone :
      ¬ Sample.lagging.system.Lingers
        (submission Sample.written).key := by
    rintro ⟨left, hLeft⟩
    cases hLeft
  have hSome : 0 < times := by
    rcases hSubmitted with ⟨record, -, -, hFits⟩
    exact (hFits.pos_iff (Sample.reachable_world _)
      Sample.unhindered_lagging).mpr hGone
  exact ⟨hAccepted, hMarked, again, hServed, times, hSome,
    hSubmitted, ((hAlike rfl).2 _ _ _).mpr hSubmitted⟩

end JobController

end Redeploy
