import Redeploy.Proofs.JobController.Recorded
import Redeploy.Proofs.Retry.Engine

/-
  Waiting for a job to complete.

  Key definitions include:
    * `Job.Completed`
    * `JobController.fetched`
    * `JobController.Reaches`, `JobController.Completes`
    * `JobController.Awaits`

  Main results:
    * `JobController.run_status`
    * `JobController.records_status`
    * `JobController.awaits_of_isLeast`
    * `JobController.awaitCompletion_exact`

  The job is fetched until an answer shows it complete.  No
  other answer ends the wait: an incomplete job is fetched
  again, and so is one that could not be fetched.  Only the
  attempts that a policy allows and a cancellation end it,
  and then the last answer is what it fails with.
-/

------------------------------------------------------------
-- Answers
------------------------------------------------------------

namespace Redeploy

/- Whether as many pods succeeded as a job asks for.  One that
   names no number needs one, and no pod running. -/
def Job.Completed
    (job : Job) : Prop :=
  match job.spec.bind (·.completions) with
  | none => 0 < job.succeeded ∧ job.active = 0
  | some completions => completions ≤ job.succeeded

theorem Job.isComplete_iff
    {job : Job} :
    job.isComplete = true ↔ job.Completed := by
  unfold isComplete Completed
  cases job.spec.bind (·.completions) with
  | none => simp
  | some completions => simp

namespace JobController

variable {σ : Type}

/- What an answer says of a job that is to be complete. -/
def verdict : Except ClientError Job → Except Failure Unit
  | .ok job =>
      if job.isComplete then .ok ()
      else .error job.incomplete
  | .error e => .error (Failure.ofClient "" e)

theorem verdict_eq_ok_iff
    {answer : Except ClientError Job} :
    verdict answer = .ok () ↔
      ∃ job, answer = .ok job ∧ job.Completed := by
  cases answer with
  | error e => simp [verdict]
  | ok job =>
      rw [verdict]
      by_cases hComplete : job.isComplete = true
      · simp [hComplete, Job.isComplete_iff.mp hComplete]
      · simp [hComplete, ← Job.isComplete_iff]

/- To check the status is to fetch the job once. -/
theorem run_status
    (c : JobController σ)
    (w : World σ) :
    c.status.run w =
      (verdict ((c.client.getJob c.key).run w).1,
        ((c.client.getJob c.key).run w).2) := by
  rw [status, Act.run_bind, find, Client.request,
    Act.run_mapError]
  rcases (c.client.getJob c.key).run w with ⟨answer, after⟩
  cases answer with
  | error e => rfl
  | ok job =>
      change (if job.isComplete then pure ()
        else Act.fail job.incomplete : Act _ _ _).run _ = _
      rw [verdict]
      split <;> rfl

/- A check that is recorded leaves the answer to its fetch. -/
theorem records_status
    (c : JobController σ) :
    Retry.Records c.recorded.status c.status fun w =>
      .getJob c.key ((c.client.getJob c.key).run w).1 := by
  intro w events
  rw [run_status, run_status]
  rfl

end JobController

end Redeploy

------------------------------------------------------------
-- Fetches
------------------------------------------------------------

namespace Redeploy

namespace JobController

variable {σ : Type}

/- The world in which a wait begins to fetch the job. -/
def polling
    (c : JobController σ)
    (policy : RetryPolicy)
    (w : World σ) : World σ :=
  { w with
    span := some c.span
    log :=
      w.log ++
        [⟨some c.span,
          .polling policy.attempts policy.period⟩] }

section Fetches

variable (c : JobController σ)
variable (policy : RetryPolicy)
variable (w : World σ)

/- The fetch after a number of others and of whole waits: its
   answer, and the world after it. -/
def fetched
    (n : Nat) : Except ClientError Job × World σ :=
  (c.client.getJob c.key).run
    (Retry.reached c.status (fun _ => policy.period)
      (c.polling policy w) n)

/- Whether attempts are left for that fetch, and no wait
   before it is cancelled. -/
def Reaches
    (n : Nat) : Prop :=
  n < policy.attempts ∧
    ∀ m < n,
      Retry.cut policy.period (c.fetched policy w m).2 =
        false

/- Whether it finds the job complete. -/
def Completes
    (n : Nat) : Prop :=
  ∃ job, (c.fetched policy w n).1 = .ok job ∧ job.Completed

/- Whether no fetch is made after it. -/
def Ends
    (n : Nat) : Prop :=
  n + 1 = policy.attempts ∨ c.Completes policy w n ∨
    Retry.cut policy.period (c.fetched policy w n).2 = true

/- The first fetches, with their answers. -/
def fetches
    (number : Nat) : List Answered :=
  (List.range number).map fun n =>
    .getJob c.key (c.fetched policy w n).1

end Fetches

/-
  Whether a wait by a policy, in which no field is zero, ends
  with an outcome and makes some requests exactly as the
  answers to its fetches demand.
-/
structure Awaits
    (c : JobController σ)
    (policy : RetryPolicy)
    (w : World σ)
    (outcome : Except Failure Unit)
    (record : List Answered) : Prop where
  ok_iff :
    outcome = .ok () ↔
      ∃ n, c.Reaches policy w n ∧ c.Completes policy w n
  /- The first complete job is the last one fetched. -/
  complete :
    ∀ n,
      IsLeast
        {n | c.Reaches policy w n ∧ c.Completes policy w n}
        n →
      record = c.fetches policy w (n + 1)
  /- Without one the job is fetched as often as can be. -/
  incomplete :
    (∀ n, c.Reaches policy w n → ¬ c.Completes policy w n) →
    ∃ last,
      IsGreatest {n | c.Reaches policy w n} last ∧
      record = c.fetches policy w (last + 1) ∧
      (∀ job, (c.fetched policy w last).1 = .ok job →
        outcome =
          .error (.compareFailed
            ("job " ++ job.metadata.path ++
              " not yet complete (succeeded: " ++
              toString job.succeeded ++ ", active: " ++
              toString job.active ++ ")"))) ∧
      ∀ e, (c.fetched policy w last).1 = .error e →
        outcome = .error (Failure.ofClient "" e)

variable {c : JobController σ}
variable {policy : RetryPolicy}
variable {w : World σ}

/- The calls of a wait are its fetches. -/
theorem tried_status
    (n : Nat) :
    Retry.tried c.status (fun _ => policy.period)
        (c.polling policy w) n =
      (verdict (c.fetched policy w n).1,
        (c.fetched policy w n).2) :=
  c.run_status _

/- A check is final if its fetch ends the wait. -/
theorem setOf_final_status :
    {n | Retry.Final (fun _ => true) policy.attempts
      (fun _ => policy.period) c.status
      (c.polling policy w) n} =
      {n | c.Ends policy w n} := by
  have hWorth (outcome : Except Failure Unit) :
      Retry.worthAnother (fun _ => true) outcome = false ↔
        outcome = .ok () := by
    cases outcome <;> simp [Retry.worthAnother]
  ext n
  rw [Set.mem_ofPred_eq, Retry.Final, tried_status, hWorth,
    verdict_eq_ok_iff]
  rfl

section Last

variable {last : Nat}
variable (hLast : IsLeast {n | c.Ends policy w n} last)

include hLast

/- No fetch before the last one finds the job complete, and
   no wait before it is cancelled. -/
private theorem not_ends_of_lt
    {n : Nat}
    (hLess : n < last) :
    ¬ c.Completes policy w n ∧
      Retry.cut policy.period (c.fetched policy w n).2 =
        false := by
  have hGoesOn : ¬ c.Ends policy w n :=
    fun hEnds => Nat.not_le_of_lt hLess (hLast.2 hEnds)
  rcases not_or.mp hGoesOn with ⟨-, hGoesOn⟩
  rcases not_or.mp hGoesOn with ⟨hIncomplete, hWhole⟩
  exact ⟨hIncomplete, Bool.not_eq_true _ ▸ hWhole⟩

private theorem reaches_last
    (hAttempts : 0 < policy.attempts) :
    c.Reaches policy w last := by
  have hUsed : c.Ends policy w (policy.attempts - 1) :=
    .inl (by omega)
  have hBound := hLast.2 hUsed
  exact ⟨by omega,
    fun _ hLess => (not_ends_of_lt hLast hLess).2⟩

/- After a last fetch that does not find the job complete,
   there is none that could be made. -/
private theorem le_last_of_reaches
    (hIncomplete : ¬ c.Completes policy w last)
    {n : Nat}
    (hReaches : c.Reaches policy w n) :
    n ≤ last := by
  by_contra hLater
  have hLess : last < n := Nat.lt_of_not_le hLater
  have hFew := hReaches.1
  rcases hLast.1 with hUsed | hComplete | hCut
  · omega
  · exact hIncomplete hComplete
  · rw [hReaches.2 last hLess] at hCut
    cases hCut

/- How a wait ends whose last fetch finds the job complete. -/
private theorem awaits_complete
    (hAttempts : 0 < policy.attempts)
    (hComplete : c.Completes policy w last) :
    c.Awaits policy w (verdict (c.fetched policy w last).1)
      (c.fetches policy w (last + 1)) := by
  have hReaches := reaches_last hLast hAttempts
  have hFirst :
      IsLeast
        {n | c.Reaches policy w n ∧ c.Completes policy w n}
        last := by
    refine ⟨⟨hReaches, hComplete⟩, ?_⟩
    rintro n ⟨_, hFound⟩
    by_contra hEarlier
    exact (not_ends_of_lt hLast
      (Nat.lt_of_not_le hEarlier)).1 hFound
  refine
    { ok_iff := ?_
      complete := ?_
      incomplete := ?_ }
  · exact iff_of_true (verdict_eq_ok_iff.mpr hComplete)
      ⟨last, hReaches, hComplete⟩
  · intro n hLeast
    rw [hLeast.unique hFirst]
  · intro hNever
    exact absurd hComplete (hNever last hReaches)

/- How it ends otherwise. -/
private theorem awaits_incomplete
    (hAttempts : 0 < policy.attempts)
    (hIncomplete : ¬ c.Completes policy w last) :
    c.Awaits policy w (verdict (c.fetched policy w last).1)
      (c.fetches policy w (last + 1)) := by
  have hNever :
      ∀ n, c.Reaches policy w n →
        ¬ c.Completes policy w n := by
    intro n hReaches
    have hBound :=
      le_last_of_reaches hLast hIncomplete hReaches
    rcases Nat.lt_or_eq_of_le hBound with hLess | rfl
    · exact (not_ends_of_lt hLast hLess).1
    · exact hIncomplete
  have hNone :
      ¬ ∃ n, c.Reaches policy w n ∧
        c.Completes policy w n := by
    rintro ⟨n, hReaches, hComplete⟩
    exact hNever n hReaches hComplete
  refine
    { ok_iff := ?_
      complete := ?_
      incomplete := ?_ }
  · exact iff_of_false
      (mt verdict_eq_ok_iff.mp hIncomplete) hNone
  · intro n hLeast
    exact absurd ⟨n, hLeast.1⟩ hNone
  · intro _
    refine ⟨last, ⟨reaches_last hLast hAttempts, ?_⟩, rfl,
      ?_, ?_⟩
    · exact fun n hReaches =>
        le_last_of_reaches hLast hIncomplete hReaches
    · intro job hJob
      have hUndone : ¬ job.isComplete = true :=
        fun hDone =>
          hIncomplete ⟨job, hJob, Job.isComplete_iff.mp hDone⟩
      rw [hJob, verdict, if_neg hUndone]
      rfl
    · intro e hError
      rw [hError]
      rfl

/- How a wait ends whose last fetch is known. -/
theorem awaits_of_isLeast
    (hAttempts : 0 < policy.attempts) :
    c.Awaits policy w (verdict (c.fetched policy w last).1)
      (c.fetches policy w (last + 1)) := by
  by_cases hComplete : c.Completes policy w last
  · exact awaits_complete hLast hAttempts hComplete
  · exact awaits_incomplete hLast hAttempts hComplete

end Last

end JobController

end Redeploy

------------------------------------------------------------
-- Runs
------------------------------------------------------------

namespace Redeploy

namespace JobController

variable {σ : Type}

/- A wait is the repeated checks, up to what it notices. -/
theorem run_awaitCompletion
    (c : JobController σ)
    (w : World σ) :
    let policy := c.settings.status.orElse .status
    let checks :=
      (Retry.calls (fun _ => true) c.status policy.attempts 1
        policy.period).run (c.polling policy w)
    (c.awaitCompletion.run w).1 = checks.1 ∧
      (c.awaitCompletion.run w).2.system =
        checks.2.system :=
  ⟨rfl, rfl⟩

/- The requests of a wait are its fetches, up to the last. -/
theorem record_awaitCompletion
    {c : JobController σ}
    {w after : World σ}
    {outcome : Except Failure Unit}
    {record : List Answered}
    {last : Nat}
    (hAttempts :
      0 < (c.settings.status.orElse .status).attempts)
    (hLast :
      IsLeast
        {n | c.Ends (c.settings.status.orElse .status) w n}
        last)
    (h :
      c.recorded.awaitCompletion.run (w.beside []) =
        (outcome, after.beside record)) :
    record =
      c.fetches (c.settings.status.orElse .status) w
        (last + 1) := by
  let policy := c.settings.status.orElse .status
  have hEvents :
      (c.recorded.awaitCompletion.run
        (w.beside [])).2.system.events = record := by
    rw [h]
    rfl
  have hSystem :=
    (c.recorded.run_awaitCompletion (w.beside [])).2
  rw [← setOf_final_status, ← Delays.nth_period] at hLast
  have hChecks :=
    Retry.run_calls_records c.records_status hAttempts
      policy.period hLast
  rw [← hEvents, hSystem]
  change
    ((Retry.calls (fun _ => true) c.recorded.status
      policy.attempts 1 policy.period).run
        ((c.polling policy w).beside [])).2.system.events = _
  rw [hChecks, Delays.nth_period]
  rfl

/-
  Whatever the client answers, and whenever all is cancelled,
  waiting for a job to complete goes by the policy that is
  set, with what is zero in it replaced.
-/
theorem awaitCompletion_exact
    (c : JobController σ)
    (w : World σ) :
    ∃ policy record,
      c.settings.status.Fills 60 (.ofSecs 5) policy ∧
      c.recorded.awaitCompletion.run (w.beside []) =
        ((c.awaitCompletion.run w).1,
          (c.awaitCompletion.run w).2.beside record) ∧
      c.Awaits policy w (c.awaitCompletion.run w).1
        record := by
  let policy := c.settings.status.orElse .status
  have hFills :
      c.settings.status.Fills 60 (.ofSecs 5) policy :=
    c.settings.status.fills_orElse .status
  have hAttempts : 0 < policy.attempts :=
    hFills.attempts_pos (by decide)
  have hRepeats :=
    Retry.repeats_period (fun _ => true) policy.attempts
      policy.period
  rcases hRepeats.some hAttempts c.status
      (c.polling policy w) with
    ⟨last, hLast, hRun, -⟩
  rw [setOf_final_status] at hLast
  have hOutcome :
      (c.awaitCompletion.run w).1 =
        verdict (c.fetched policy w last).1 := by
    rw [(c.run_awaitCompletion w).1, hRun, tried_status]
  rcases c.exists_record .awaitCompletion w with
    ⟨record, hRecord⟩
  have hFetches :
      record = c.fetches policy w (last + 1) :=
    record_awaitCompletion hAttempts hLast hRecord
  have hAwaits := awaits_of_isLeast hLast hAttempts
  rw [← hOutcome, ← hFetches] at hAwaits
  exact ⟨policy, record, hFills, hRecord, hAwaits⟩

end JobController

end Redeploy
