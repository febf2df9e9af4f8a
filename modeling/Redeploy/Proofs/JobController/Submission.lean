import Redeploy.Proofs.JobController.Recorded
import Redeploy.Proofs.JobController.Requests

/-
  What an upsert submits to a cluster in memory.

  Key definitions include:
    * `Cluster.Answers`
    * `Cluster.Submits`
    * `Cluster.Fits`
    * `JobController.Submitted`

  Main results:
    * `Cluster.createJob_answers`
    * `JobController.Submitting.create`
    * `JobController.upserts_submitting`
    * `JobController.exists_submitted`

  A job as it is submitted has no uid and no version, so a
  cluster never answers that it has.  Of a cluster that no
  failure is scripted for, an upsert is kept from its
  creation in one way only: the job was deleted and is still
  found, so it cannot be deleted again.
-/

------------------------------------------------------------
-- Submissions
------------------------------------------------------------

namespace Redeploy

namespace Cluster

/- How the creation of a job without a uid and a version can
   be answered. -/
inductive Answers
    (c : Cluster)
    (job : Job) : Except ClientError Job → Prop where
  /- As it is scripted. -/
  | scripted
      {status : Status}
      (hScript : some status ∈ c.script .createJob) :
      Answers c job (.error (.status status))
  /- There is such a job already. -/
  | stored :
      Answers c job
        (.error (.status
          (.alreadyExists Job.kind job.key.name)))
  /- The job is there from now on. -/
  | created
      (uid : String)
      (version : Nat) :
      Answers c job (.ok (versioned uid version job))

variable {c c' : Cluster}
variable {job : Job}

/- What is still scripted was scripted before. -/
theorem Answers.earlier
    {answer : Except ClientError Job}
    (hScript : c'.script .createJob <:+ c.script .createJob)
    (h : c'.Answers job answer) :
    c.Answers job answer := by
  cases h with
  | scripted hStatus =>
      exact .scripted (hScript.subset hStatus)
  | stored => exact .stored
  | created uid version => exact .created uid version

/- That a job is no good request is answered where it is
   scripted only. -/
theorem Answers.scripted_of_badRequest
    {status : Status}
    (hCode : status.code = 400)
    (h : c.Answers job (.error (.status status))) :
    some status ∈ c.script .createJob := by
  cases h with
  | scripted hScript => exact hScript
  | stored => cases hCode

theorem mem_script_of_failure?
    {operation : Operation}
    {status : Status}
    (h : c.failure? operation = some status) :
    some status ∈ c.script operation := by
  unfold failure? at h
  cases hScript : c.script operation with
  | nil =>
      rw [hScript] at h
      cases h
  | cons outcome rest =>
      rw [hScript] at h
      replace h : outcome = some status := h
      rw [h]
      exact List.mem_cons_self

theorem storeJob_fst
    (job : Job)
    (c : Cluster) :
    (c.storeJob job).1 =
      versioned (c.uidOf (c.version + 1)) (c.version + 1)
        job :=
  rfl

@[simp]
theorem read_created
    (key : ObjectKey)
    (c : Cluster) :
    (c.read key).created = c.created := by
  unfold read
  split <;> rfl

theorem submitted_created
    (job : Job)
    (c : Cluster) :
    (c.submitted job).created = c.created ++ [job] :=
  read_created _ _

/- A job without a uid and a version is noted as submitted,
   unless it is refused as scripted, and is never taken for
   one that is known. -/
theorem createJob_answers
    {answer : Except ClientError Job}
    (hUid : job.metadata.uid = none)
    (hVersion : job.metadata.resourceVersion = none)
    (h : createJob job c = (answer, c')) :
    c.Answers job answer ∧
      ((c.Refused (.createJob job.key) answer c' ∧
        c'.created = c.created) ∨
      c'.created = c.created ++ [job]) := by
  rcases createJob_cases h with
    hRefused | ⟨-, -, rfl, rfl⟩ | ⟨-, -, hKnown, -⟩ |
      ⟨-, -, rfl, rfl⟩
  · rcases hRefused with ⟨status, hFailure, rfl, rfl⟩
    exact ⟨.scripted (mem_script_of_failure? hFailure),
      .inl ⟨⟨status, hFailure, rfl, rfl⟩, rfl⟩⟩
  · exact ⟨.stored, .inr (submitted_created job c)⟩
  · rw [hUid, hVersion] at hKnown
    simp at hKnown
  · rw [storeJob_fst]
    exact ⟨.created _ _, .inr (submitted_created job c)⟩

end Cluster

end Redeploy

------------------------------------------------------------
-- Other Requests
------------------------------------------------------------

namespace Redeploy

namespace Cluster

variable {c c' : Cluster}
variable {key : ObjectKey}

theorem getJob_created
    {answer : Except ClientError Job}
    (h : getJob key c = (answer, c')) :
    c'.created = c.created := by
  rcases getJob_cases h with ⟨_, -, -, rfl⟩ | ⟨-, rfl, -⟩
  · rfl
  · exact read_created _ _

theorem deleteJob_created
    {propagation : Option Propagation}
    {answer : Except ClientError Unit}
    (h : deleteJob key propagation c = (answer, c')) :
    c'.created = c.created := by
  rcases deleteJob_cases h with
    ⟨_, -, -, rfl⟩ | ⟨-, -, -, rfl⟩ | ⟨-, -, -, -, rfl⟩ <;>
    rfl

theorem listPods_created
    {ns selector : String}
    {answer : Except ClientError (List Pod)}
    (h : listPods ns selector c = (answer, c')) :
    c'.created = c.created := by
  rcases listPods_cases h with ⟨_, -, -, rfl⟩ | ⟨-, -, rfl⟩ <;>
    rfl

theorem deletePod_created
    {answer : Except ClientError Unit}
    (h : deletePod key c = (answer, c')) :
    c'.created = c.created := by
  rcases deletePod_cases h with
    ⟨_, -, -, rfl⟩ | ⟨-, -, rfl⟩ <;> rfl

/- Requests use up what is scripted. -/
theorem Requests.script
    (h : c.Requests c')
    (operation : Operation) :
    c'.script operation <:+ c.script operation := by
  induction h with
  | refl => exact List.suffix_rfl
  | @next d move _ hRequest ih =>
      rcases keepsSetup_request hRequest d with ⟨call, hKeeps⟩
      have hHeard :
          (d.heard call).script operation <:+
            d.script operation := by
        change (if operation = call.operation then
          (d.script call.operation).tail
          else d.script operation) <:+ d.script operation
        split
        next hSame =>
          rw [hSame]
          exact List.tail_suffix _
        next => exact List.suffix_rfl
      rw [hKeeps.script]
      exact hHeard.trans ih

end Cluster

end Redeploy

------------------------------------------------------------
-- What an Upsert Submits
------------------------------------------------------------

namespace Redeploy

/- Whether nothing but one job was submitted by the requests
   of a record, a number of times, and each time it was
   refused as scripted or treated as new. -/
structure Cluster.Submits
    (sent : Job)
    (times : Nat)
    (c : Cluster)
    (record : List Answered)
    (c' : Cluster) : Prop where
  created :
    c'.created = c.created ++ List.replicate times sent
  answers :
    ∀ job answer, .createJob job answer ∈ record →
      job = sent ∧ c.Answers sent answer

/- Whether a number of submissions fits how an upsert has
   ended: one that succeeds submits, and so does each one
   that is not hindered, unless its job still lingers. -/
structure Cluster.Fits
    (c : Cluster)
    (key : ObjectKey)
    (outcome : Except Failure Unit)
    (times : Nat) : Prop where
  of_ok : outcome = .ok () → 0 < times
  pos_iff :
    c.Reachable → c.Unhindered →
      (0 < times ↔ ¬ c.Lingers key)

namespace JobController

/- Whether an upsert submits one job and no other, a number
   of times.  It runs as it does without a record. -/
def Submitted
    (controller : JobController Cluster)
    (sent : Job)
    (times : Nat)
    (w : World Cluster) : Prop :=
  ∃ record,
    controller.recorded.upsert.run (w.beside []) =
        ((controller.upsert.run w).1,
          (controller.upsert.run w).2.beside record) ∧
      w.system.Submits sent times record
        (controller.upsert.run w).2.system ∧
      w.system.Fits sent.key (controller.upsert.run w).1
        times

end JobController

end Redeploy

------------------------------------------------------------
-- Steps of an Upsert
------------------------------------------------------------

namespace Redeploy

namespace JobController

/- What has been submitted when an upsert has come to some
   situation. -/
structure Submitting
    (job : Job)
    (start : Situation Cluster)
    (times : Nat)
    (s : Situation (Watched Cluster Answered)) : Prop where
  requested : Requested start s.unwatched
  submits :
    start.system.Submits (submission job) times
      s.system.events s.system.system

/- Creations that have submitted nothing failed, and they
   were hindered. -/
def Futile
    (start : Situation Cluster)
    (outcome : Except Failure Unit) : Prop :=
  (∃ e, outcome = .error e) ∧ ¬ start.system.Unhindered

namespace Submitting

variable {job : Job}
variable {settings : Settings}
variable {start : Situation Cluster}
variable {times : Nat}
variable {s s' : Situation (Watched Cluster Answered)}

/- Nothing is submitted before the first request. -/
theorem initially
    (hEvents : s.system.events = []) :
    Submitting job s.unwatched 0 s where
  requested := .refl _
  submits :=
    { created := (List.append_nil _).symm
      answers := by
        rw [hEvents]
        intro _ _ hMem
        cases hMem }

/- Requests of another kind submit nothing. -/
theorem later
    {event : Answered}
    (h : Submitting job start times s)
    (hRequested : Requested start s'.unwatched)
    (hEvents :
      s'.system.events = s.system.events ++ [event])
    (hCreated :
      s'.system.system.created = s.system.system.created)
    (hOther : ∀ sent answer, event ≠ .createJob sent answer) :
    Submitting job start times s' where
  requested := hRequested
  submits :=
    { created := hCreated.trans h.submits.created
      answers := by
        intro sent answer hMem
        rw [hEvents] at hMem
        rcases List.mem_append.mp hMem with hMem | hMem
        · exact h.submits.answers sent answer hMem
        · exact absurd (List.mem_singleton.mp hMem).symm
            (hOther sent answer) }

theorem find
    {outcome : Except Failure Job}
    (h : Submitting job start times s)
    (hFind :
      (onCluster job settings).recorded.workload.find.Leads s
        outcome s') :
    Submitting job start times s' := by
  rcases recorded_find hFind with ⟨hPlain, _, hEvents, -⟩
  rcases leads_find hPlain with ⟨_, hStep, -⟩
  refine h.later (h.requested.find hPlain) hEvents
    (Cluster.getJob_created hStep) ?_
  intro _ _ hSame
  cases hSame

theorem podsOf
    {current : Job}
    {outcome : Except Failure NodePods}
    (h : Submitting job start times s)
    (hPods :
      ((onCluster job settings).recorded.workload.podsOf
        current).Leads s outcome s') :
    Submitting job start times s' := by
  rcases recorded_podsOf hPods with ⟨hPlain, _, hEvents⟩
  rcases leads_podsOf hPlain with ⟨_, hStep, -⟩
  refine h.later (h.requested.podsOf hPlain) hEvents
    (Cluster.listPods_created hStep) ?_
  intro _ _ hSame
  cases hSame

theorem remove
    {propagation : Option Propagation}
    {outcome : Except Failure Unit}
    (h : Submitting job start times s)
    (hRemove :
      ((onCluster job settings).recorded.workload.remove
        propagation).Leads s outcome s') :
    Submitting job start times s' := by
  rcases recorded_remove hRemove with ⟨hPlain, _, hEvents, -⟩
  rcases leads_remove hPlain with ⟨_, hStep, -⟩
  refine h.later (h.requested.remove hPlain) hEvents
    (Cluster.deleteJob_created hStep) ?_
  intro _ _ hSame
  cases hSame

theorem deletePod
    {key : ObjectKey}
    {answer : Except ClientError Unit}
    (h : Submitting job start times s)
    (hDelete :
      (Cluster.client.recorded.deletePod key).Leads s answer
        s') :
    Submitting job start times s' := by
  rcases Client.recorded_deletePod hDelete with
    ⟨hPlain, hEvents⟩
  rcases Cluster.leads_deletePod hPlain with ⟨hStep, -⟩
  refine h.later (h.requested.deletePod hPlain) hEvents
    (Cluster.deletePod_created hStep) ?_
  intro _ _ hSame
  cases hSame

/- A creation submits the wanted job, unless it is refused as
   scripted. -/
theorem create
    {outcome : Except Failure Unit}
    (h : Submitting job start times s)
    (hCreate :
      (onCluster job settings).recorded.workload.create.Leads
        s outcome s') :
    ∃ more,
      Submitting job start (times + more) s' ∧
        (more = 0 → Futile start outcome) := by
  rcases recorded_create hCreate with ⟨hPlain, -⟩
  rcases recorded_createJob hCreate with
    ⟨answer, hPost, hEvents, hOutcome⟩
  rcases Cluster.leads_createJob hPost with ⟨hStep, -⟩
  rcases Cluster.createJob_answers rfl rfl hStep with
    ⟨hAnswers, hSubmitted⟩
  have hEarlier :
      start.system.Answers (submission job) answer :=
    hAnswers.earlier (h.requested.requests.script .createJob)
  have hLater (more : Nat)
      (hCreated :
        s'.system.system.created =
          s.system.system.created ++
            List.replicate more (submission job)) :
      Submitting job start (times + more) s' := by
    refine ⟨h.requested.create hPlain, ?_, ?_⟩
    · rw [← List.replicate_append_replicate,
        ← List.append_assoc, ← h.submits.created]
      exact hCreated
    · intro sent given hMem
      rw [hEvents] at hMem
      rcases List.mem_append.mp hMem with hMem | hMem
      · exact h.submits.answers sent given hMem
      · cases List.mem_singleton.mp hMem
        exact ⟨rfl, hEarlier⟩
  rcases hSubmitted with ⟨hRefused, hCreated⟩ | hCreated
  · refine ⟨0, hLater 0 ?_, fun _ => ⟨?_, ?_⟩⟩
    · exact hCreated.trans (List.append_nil _).symm
    · rcases hRefused with ⟨status, -, rfl, -⟩
      exact ⟨_, hOutcome⟩
    · intro hFree
      exact hRefused.not_unhindered
        (hFree.requests h.requested.requests)
  · refine ⟨1, hLater 1 hCreated, ?_⟩
    intro hNone
    cases hNone

/- What attempts to create the job have submitted. -/
theorem tries
    {attempts : Nat}
    {outcome : Except Failure Unit}
    (hAttempts : 0 < attempts)
    (h : Submitting job start times s)
    (hTries :
      Retry.Tries (fun _ => true)
        (onCluster job settings).recorded.workload.create
        attempts s outcome s') :
    ∃ more,
      Submitting job start (times + more) s' ∧
        (more = 0 → Futile start outcome) := by
  induction hTries generalizing times with
  | none => omega
  | success hCreate => exact h.create hCreate
  | failure hCreate _ => exact h.create hCreate
  | again hCreate _ hLeft _ ih =>
      rcases h.create hCreate with ⟨first, hNext, -⟩
      rcases ih hLeft hNext with ⟨rest, hEnd, hNone⟩
      rw [Nat.add_assoc] at hEnd
      refine ⟨first + rest, hEnd, fun hZero => hNone ?_⟩
      omega

theorem sweeps
    {ns : String}
    {pods : List Pod}
    {outcome : Except Failure Unit}
    (h : Submitting job start times s)
    (hSweep :
      NodePods.Sweeps Cluster.client.recorded ns pods s
        outcome s') :
    Submitting job start times s' :=
  hSweep.preserves
    (fun _ _ _ _ _ hBefore => hBefore.deletePod) h

end Submitting

end JobController

end Redeploy

------------------------------------------------------------
-- Whole Upserts
------------------------------------------------------------

namespace Redeploy

namespace JobController

variable {job : Job}
variable {settings : Settings}
variable {attempts : Nat}

/- After a look the job is terminating exactly if it lingered
   before, and then the look has found it. -/
theorem find_lingers
    {s s' : Situation Cluster}
    {outcome : Except Failure Job}
    (hReachable : s.system.Reachable)
    (hFree : s.system.Unhindered)
    (h : (onCluster job settings).workload.find.Leads s
      outcome s') :
    (s'.system.terminating.contains job.target = true ↔
      s.system.Lingers job.target) ∧
    (s.system.Lingers job.target →
      ∃ current, outcome = .ok current) := by
  rcases find_unhindered hFree h with ⟨hAfter, -, hFound⟩
  have hLingers :
      s'.system.terminating.contains job.target = true ↔
        s.system.Lingers job.target := by
    rw [hAfter]
    exact Cluster.contains_read_iff
  refine ⟨hLingers, fun hLeft => ?_⟩
  have hSound : s'.system.Sound :=
    (hReachable.requests
      ((Requested.refl s).find h).requests).sound
  have hStored :=
    hSound.terminating_stored _ (hLingers.mpr hLeft)
  rcases hFound with ⟨current, -, hOk⟩ | ⟨hAbsent, -⟩
  · exact ⟨current, hOk⟩
  · rw [Table.contains, hAbsent] at hStored
    cases hStored

variable {s s' : Situation (Watched Cluster Answered)}

/- Where nothing is hindered, a job that was found is removed
   exactly if it does not linger. -/
theorem remove_lingers_iff
    {current : Job}
    {pods : NodePods}
    {s₁ s₂ : Situation (Watched Cluster Answered)}
    {outcome : Except Failure Unit}
    (hFind :
      (onCluster job settings).recorded.workload.find.Leads s
        (.ok current) s₁)
    (hPods :
      ((onCluster job settings).recorded.workload.podsOf
        current).Leads s₁ (.ok pods) s₂)
    (hRemove :
      ((onCluster job settings).recorded.workload.remove
        none).Leads s₂ outcome s')
    (hReachable : s.unwatched.system.Reachable)
    (hFree : s.unwatched.system.Unhindered) :
    outcome = .ok () ↔
      ¬ s.unwatched.system.Lingers job.target := by
  have hFound := (recorded_find hFind).1
  have hListed := (recorded_podsOf hPods).1
  have hRemoved := (recorded_remove hRemove).1
  rcases find_lingers hReachable hFree hFound with
    ⟨hLingers, -⟩
  have hFree₁ : s₁.unwatched.system.Unhindered :=
    hFree.requests ((Requested.refl _).find hFound).requests
  rcases podsOf_unhindered hFree₁ hListed with ⟨hHeard, -⟩
  have hFree₂ : s₂.unwatched.system.Unhindered := by
    rw [hHeard]
    exact hFree₁.heard _
  have hStored :
      s₂.unwatched.system.jobs.contains job.target =
        true := by
    rcases find_unhindered hFree hFound with
      ⟨-, -, ⟨_, hGet, -⟩ | ⟨-, _, hError⟩⟩
    · rw [hHeard, Table.contains]
      exact Option.isSome_of_eq_some hGet
    · cases hError
  have hSame :
      s₂.unwatched.system.terminating =
        s₁.unwatched.system.terminating := by
    rw [hHeard]
    rfl
  rw [← hLingers, ← hSame]
  rcases remove_unhindered hFree₂ hRemoved with
    ⟨-, ⟨hGone, message, rfl⟩ | ⟨hStaying, -, -, rfl⟩⟩
  · rw [hStored] at hGone
    simp only [reduceCtorEq, false_iff]
    exact not_not_intro (hGone.resolve_right (by simp))
  · simp [Table.contains, hStaying]

/- An upsert that gets to its creation. -/
theorem fits_of_tries
    {start : Situation Cluster}
    {times : Nat}
    {created outcome : Except Failure Unit}
    (hNone : times = 0 → Futile start created)
    (hCreated : outcome = .ok () → created = .ok ())
    (hFree :
      start.system.Reachable → start.system.Unhindered →
        ¬ start.system.Lingers job.target) :
    start.system.Fits job.target outcome times where
  of_ok := by
    intro hOk
    refine Nat.pos_of_ne_zero fun hZero => ?_
    rcases hNone hZero with ⟨⟨e, hError⟩, -⟩
    rw [hCreated hOk] at hError
    cases hError
  pos_iff := by
    intro hReachable hUnhindered
    refine iff_of_true ?_ (hFree hReachable hUnhindered)
    refine Nat.pos_of_ne_zero fun hZero => ?_
    exact (hNone hZero).2 hUnhindered

/- An upsert that fails before its creation. -/
theorem fits_of_failure
    {start : Situation Cluster}
    {e : Failure}
    (hLingers :
      start.system.Reachable → start.system.Unhindered →
        start.system.Lingers job.target) :
    start.system.Fits job.target (.error e) 0 where
  of_ok := by
    intro hOk
    cases hOk
  pos_iff := by
    intro hReachable hUnhindered
    exact iff_of_false (Nat.lt_irrefl 0)
      (not_not_intro (hLingers hReachable hUnhindered))

/- An upsert submits the wanted job and nothing else, and as
   often as fits how it ends. -/
theorem upserts_submitting
    {outcome : Except Failure Unit}
    (hAttempts : 0 < attempts)
    (hEvents : s.system.events = [])
    (h :
      (onCluster job settings).recorded.workload.Upserts
        attempts s outcome s') :
    ∃ times,
      Submitting job s.unwatched times s' ∧
        s.unwatched.system.Fits job.target outcome times := by
  have hStart : Submitting job s.unwatched 0 s :=
    .initially hEvents
  cases h with
  | unreadable hFind hReal =>
      refine ⟨0, hStart.find hFind, fits_of_failure ?_⟩
      intro hReachable hFree
      rcases find_unhindered hFree (recorded_find hFind).1 with
        ⟨-, -, ⟨_, -, hOk⟩ | ⟨-, message, hError⟩⟩
      · cases hOk
      · cases hError
        cases hReal
  | fresh hFind _ hCreate =>
      rcases (hStart.find hFind).tries hAttempts hCreate with
        ⟨times, hEnd, hNone⟩
      rw [Nat.zero_add] at hEnd
      refine ⟨times, hEnd, fits_of_tries hNone id ?_⟩
      intro hReachable hFree hLingers
      rcases find_lingers hReachable hFree
          (recorded_find hFind).1 with
        ⟨-, hFound⟩
      rcases hFound hLingers with ⟨_, hOk⟩
      cases hOk
  | uncollected hFind hPods =>
      refine ⟨0, (hStart.find hFind).podsOf hPods,
        fits_of_failure ?_⟩
      intro hReachable hFree
      have hFree₁ :=
        hFree.requests (hStart.find hFind).requested.requests
      rcases podsOf_unhindered hFree₁
          (recorded_podsOf hPods).1 with
        ⟨-, -, hOk⟩
      cases hOk
  | unremoved hFind hPods hRemove =>
      have hListed := (hStart.find hFind).podsOf hPods
      refine ⟨0, hListed.remove hRemove, fits_of_failure ?_⟩
      intro hReachable hFree
      have hRemoves :=
        remove_lingers_iff hFind hPods hRemove hReachable
          hFree
      simpa using hRemoves
  | uncreated hFind hPods hRemove hCreate =>
      have hRemoved :=
        ((hStart.find hFind).podsOf hPods).remove hRemove
      rcases hRemoved.tries hAttempts hCreate with
        ⟨times, hEnd, hNone⟩
      rw [Nat.zero_add] at hEnd
      refine ⟨times, hEnd, fits_of_tries hNone id ?_⟩
      intro hReachable hFree
      exact (remove_lingers_iff hFind hPods hRemove hReachable
        hFree).mp rfl
  | replaced hFind hPods hRemove hCreate hSweep =>
      have hRemoved :=
        ((hStart.find hFind).podsOf hPods).remove hRemove
      rcases hRemoved.tries hAttempts hCreate with
        ⟨times, hCreated, hNone⟩
      rw [Nat.zero_add] at hCreated
      refine ⟨times, hCreated.sweeps hSweep,
        fits_of_tries hNone (fun _ => rfl) ?_⟩
      intro hReachable hFree
      exact (remove_lingers_iff hFind hPods hRemove hReachable
        hFree).mp rfl

/- What the upsert of a controller submits. -/
theorem exists_submitted
    (job : Job)
    (settings : Settings)
    (w : World Cluster) :
    ∃ times,
      (onCluster job settings).Submitted (submission job)
        times w := by
  rcases (onCluster job settings).exists_record .upsert w with
    ⟨record, hRun⟩
  have hLeads :
      (onCluster job settings).recorded.upsert.Leads
        (w.beside []).situation
        ((onCluster job settings).upsert.run w).1
        (((onCluster job settings).upsert.run
          w).2.beside record).situation :=
    ⟨_, _, rfl, hRun, rfl⟩
  rcases upserts_submitting (createAttempts_pos settings) rfl
      (Workload.leads_upsert hLeads.within) with
    ⟨times, hEnd, hFits⟩
  refine ⟨times, record, hRun, hEnd.submits, ?_⟩
  rw [submission_key]
  exact hFits

end JobController

end Redeploy
