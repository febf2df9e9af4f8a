import Redeploy.Proofs.JobController.Confined
import Redeploy.Proofs.JobController.Hindered
import Redeploy.Proofs.Retry.Engine

/-
  What a command that fails leaves behind in a cluster.

  Key definitions include:
    * `Answered.isDeletion`, `Answered.isCreation`
    * `Answered.isAbsence`
    * `JobController.Command.settled`
    * `JobController.Stuck`
    * `JobController.Residue`

  Main results:
    * `JobController.Intact.upserts`
    * `JobController.Intact.deletes`
    * `JobController.failed_residue`

  A failed command has left everything alone, or has sent the
  old job away and touched no pod, or has come to deleting
  pods and met one that stays.  Which of them it is can be
  told from the answers that it got.
-/

------------------------------------------------------------
-- Milestones
------------------------------------------------------------

namespace Redeploy

namespace Answered

/- Whether a job was deleted by a request. -/
def isDeletion : Answered → Bool
  | .deleteJob _ _ (.ok ()) => true
  | _ => false

/- Whether a job was created by it. -/
def isCreation : Answered → Bool
  | .createJob _ (.ok _) => true
  | _ => false

/- Whether it was answered that there is no job. -/
def isAbsence : Answered → Bool
  | .getJob _ (.error e) => (Failure.ofClient "" e).isNotFound
  | _ => false

/- No job is created by a request that deletes one. -/
theorem not_isCreation_of_isDeletion
    {request : Answered}
    (h : request.isDeletion = true) :
    request.isCreation = false := by
  cases request with
  | createJob job answer => cases h
  | _ => rfl

end Answered

namespace JobController

/-
  Whether a command that had a job deleted has come as far as
  to the pods: a new job was created, or the old one was said
  to be gone afterwards.
-/
def Command.settled
    (record : List Answered) : Command → Bool
  | .upsert => record.any (·.isCreation)
  | .delete _ =>
      (record.dropWhile (!·.isDeletion)).any (·.isAbsence)
  | .status => false
  | .awaitCompletion => false

/- Whether a number of pods was to be deleted one after the
   other, and one of them and all after it have stayed. -/
inductive Stuck
    (ns : String)
    (pods : List Pod)
    (record : List Answered)
    (e : Failure)
    (stored stored' : Table ObjectKey Pod) : Prop where
  | stays
      {early late : List Pod}
      {pod : Pod}
      {err : ClientError}
      (hPods : pods = early ++ pod :: late)
      (hLast :
        record.getLast? =
          some (.deletePod (pod.keyIn ns) (.error err)))
      (hFailure : e = Failure.ofClient "" err)
      (hRemoved :
        ∀ key, stored'.get? key = stored.get? key ∨
          (stored'.get? key = none ∧
            key ∈ early.map (·.keyIn ns)))
      (hStay :
        ∀ other ∈ pod :: late,
          stored'.get? (other.keyIn ns) = some other)

/- What a failed command with some record has left.  No two
   of these go together: whether a job was deleted and the
   command settled tells which it is. -/
inductive Residue
    (job : Job)
    (command : Command)
    (record : List Answered)
    (e : Failure)
    (c c' : Cluster) : Prop where
  /- No deletion was accepted. -/
  | untouched
      (hDeleted : record.any (·.isDeletion) = false)
      (hJobs : c'.jobs = c.jobs)
      (hPods : c'.pods = c.pods)
      (hNodes : c'.nodes = c.nodes)
      (hTerminating : c'.terminating = c.terminating)
  /- The old job was sent away, and that is all. -/
  | outgoing
      {old : Job}
      (hDeleted : record.any (·.isDeletion) = true)
      (hSettled : command.settled record = false)
      (hOld : c.jobs.get? job.target = some old)
      (hOutgoing : c'.Outgoing job.target old)
      (hPods : c'.pods = c.pods)
  /- Not all of the pods could be deleted. -/
  | stuck
      {old : Job}
      (hDeleted : record.any (·.isDeletion) = true)
      (hSettled : command.settled record = true)
      (hOld : c.jobs.get? job.target = some old)
      (hNew :
        command = .upsert →
          c'.terminating.get? job.target = none ∧
            c'.jobs.get? job.target =
              some (Cluster.versioned
                (c.uidOf (c.version + 1)) (c.version + 1)
                (submission job)))
      (hStuck :
        Stuck job.target.ns
          (c.collected old job.target.ns).values record e
          c.pods c'.pods)

end JobController

end Redeploy

------------------------------------------------------------
-- Before a Deletion
------------------------------------------------------------

namespace Redeploy

namespace JobController

/- Where no request has changed what a cluster stores. -/
structure Intact
    (c : Cluster)
    (s : Situation (Watched Cluster Answered)) : Prop where
  same : c.SameStores s.system.system
  spared :
    ∀ request ∈ s.system.events,
      request.isDeletion = false ∧
        request.isCreation = false

namespace Intact

variable {job : Job}
variable {settings : Settings}
variable {c : Cluster}
variable {s s' : Situation (Watched Cluster Answered)}

theorem later
    {request : Answered}
    (h : Intact c s)
    (hSame :
      s.system.system.SameStores s'.system.system)
    (hEvents :
      s'.system.events = s.system.events ++ [request])
    (hDeletion : request.isDeletion = false)
    (hCreation : request.isCreation = false) :
    Intact c s' where
  same := h.same.trans hSame
  spared := by
    rw [hEvents]
    intro asked hAsked
    rcases List.mem_append.mp hAsked with hFirst | hLast
    · exact h.spared asked hFirst
    · cases List.mem_singleton.mp hLast
      exact ⟨hDeletion, hCreation⟩

theorem find
    {outcome : Except Failure Job}
    (hStaying : c.terminating.get? job.target = none)
    (h : Intact c s)
    (hFind :
      (onCluster job settings).recorded.workload.find.Leads s
        outcome s') :
    Intact c s' ∧
      ∀ current, outcome = .ok current →
        c.jobs.get? job.target = some current := by
  rcases recorded_find hFind with ⟨hPlain, _, hEvents, -⟩
  rw [← h.same.terminating] at hStaying
  rcases find_same hStaying hPlain with ⟨hSame, hFound⟩
  refine ⟨h.later hSame hEvents rfl rfl, ?_⟩
  intro current hOk
  rw [← h.same.jobs]
  exact hFound current hOk

theorem podsOf
    {current : Job}
    {outcome : Except Failure NodePods}
    (h : Intact c s)
    (hPods :
      ((onCluster job settings).recorded.workload.podsOf
        current).Leads s outcome s') :
    Intact c s' ∧
      ∀ pods, outcome = .ok pods →
        pods = c.collected current job.target.ns := by
  rcases recorded_podsOf hPods with ⟨hPlain, _, hEvents⟩
  refine ⟨h.later (podsOf_same hPlain) hEvents rfl rfl, ?_⟩
  rintro pods rfl
  rw [podsOf_collected hPlain]
  exact Cluster.collected_congr h.same.pods _ _

/- A deletion that is not accepted changes nothing. -/
theorem remove
    {propagation : Option Propagation}
    {e : Failure}
    (h : Intact c s)
    (hRemove :
      ((onCluster job settings).recorded.workload.remove
        propagation).Leads s (.error e) s') :
    Intact c s' := by
  rcases recorded_remove hRemove with
    ⟨hPlain, answer, hEvents, hOutcome⟩
  cases answer with
  | ok => cases hOutcome
  | error err =>
      rcases remove_same hPlain with
        ⟨_, -, hSame⟩ | ⟨hOk, -⟩
      · exact h.later hSame hEvents rfl rfl
      · cases hOk

/- Nor does a creation that fails. -/
theorem create
    {e : Failure}
    (hStaying : c.terminating.get? job.target = none)
    (h : Intact c s)
    (hCreate :
      (onCluster job settings).recorded.workload.create.Leads
        s (.error e) s') :
    Intact c s' := by
  rcases recorded_create hCreate with
    ⟨hPlain, answer, hEvents, hOutcome⟩
  rw [← h.same.terminating] at hStaying
  cases answer with
  | ok => cases hOutcome
  | error err =>
      exact h.later (create_same hStaying hPlain) hEvents rfl
        rfl

/- A command that ends there has left everything alone. -/
theorem residue
    {command : Command}
    {e : Failure}
    (h : Intact c s)
    (hNodes : s.system.system.nodes = c.nodes) :
    Residue job command s.system.events e c
      s.system.system := by
  have hNone :
      s.system.events.any (·.isDeletion) = false := by
    rw [List.any_eq_false]
    intro request hRequest
    simp [(h.spared request hRequest).1]
  exact .untouched hNone h.same.jobs h.same.pods hNodes
    h.same.terminating

end Intact

end JobController

end Redeploy

------------------------------------------------------------
-- After a Deletion
------------------------------------------------------------

namespace Redeploy

namespace JobController

/- Where a job was deleted, and nothing of one kind has been
   answered since. -/
structure Leaving
    (job old : Job)
    (kind : Answered → Bool)
    (c : Cluster)
    (s : Situation (Watched Cluster Answered)) : Prop where
  outgoing : s.system.system.Outgoing job.target old
  agrees : c.AgreesBeside job.target s.system.system
  deleted :
    ∃ before request after,
      s.system.events = before ++ request :: after ∧
        (∀ earlier ∈ before, earlier.isDeletion = false ∧
          earlier.isCreation = false) ∧
        request.isDeletion = true ∧
        ∀ later ∈ after, kind later = false

namespace Leaving

variable {job old : Job}
variable {settings : Settings}
variable {kind : Answered → Bool}
variable {c : Cluster}
variable {s s' : Situation (Watched Cluster Answered)}

theorem start
    {propagation : Option Propagation}
    (h : Intact c s)
    (hOld : c.jobs.get? job.target = some old)
    (hRemove :
      ((onCluster job settings).recorded.workload.remove
        propagation).Leads s (.ok ()) s') :
    Leaving job old kind s.system.system s' := by
  rcases recorded_remove hRemove with
    ⟨hPlain, answer, hEvents, hOutcome⟩
  rw [← h.same.jobs] at hOld
  rcases remove_outgoing hOld hPlain with
    ⟨hOutgoing, hAgrees⟩
  cases answer with
  | error err => cases hOutcome
  | ok =>
      exact
        { outgoing := hOutgoing
          agrees := hAgrees
          deleted :=
            ⟨_, _, [], hEvents, h.spared, rfl, by simp⟩ }

theorem later
    {request : Answered}
    (h : Leaving job old kind c s)
    (hOutgoing : s'.system.system.Outgoing job.target old)
    (hAgrees : c.AgreesBeside job.target s'.system.system)
    (hEvents :
      s'.system.events = s.system.events ++ [request])
    (hKind : kind request = false) :
    Leaving job old kind c s' where
  outgoing := hOutgoing
  agrees := hAgrees
  deleted := by
    rcases h.deleted with
      ⟨before, deletion, after, hSplit, hBefore, hDeletion,
        hAfter⟩
    refine ⟨before, deletion, after ++ [request], ?_,
      hBefore, hDeletion, ?_⟩
    · rw [hEvents, hSplit]
      simp
    · intro asked hAsked
      rcases List.mem_append.mp hAsked with hFirst | hLast
      · exact hAfter asked hFirst
      · cases List.mem_singleton.mp hLast
        exact hKind

/- Creations that fail leave the job where it is going. -/
theorem create
    {e : Failure}
    (h : Leaving job old Answered.isCreation c s)
    (hCreate :
      (onCluster job settings).recorded.workload.create.Leads
        s (.error e) s') :
    Leaving job old Answered.isCreation c s' := by
  rcases recorded_create hCreate with
    ⟨hPlain, answer, hEvents, hOutcome⟩
  rcases h.outgoing.departs with ⟨left, hDeparts⟩
  cases answer with
  | ok => cases hOutcome
  | error err =>
      rcases create_departing hDeparts h.agrees hPlain with
        ⟨_, _, -, -, hAgrees⟩ | ⟨hOk, -⟩
      · exact h.later (create_outgoing h.outgoing hPlain)
          hAgrees hEvents rfl
      · cases hOk

/- So do looks that do not find it gone. -/
theorem look
    {e : Failure}
    (h : Leaving job old Answered.isAbsence c s)
    (hLook :
      (onCluster job settings).recorded.workload.absent.Leads
        s (.error e) s') :
    Leaving job old Answered.isAbsence c s' := by
  rcases Workload.leads_absent hLook with
    ⟨found, hFind, hOutcome⟩
  rcases recorded_find hFind with
    ⟨hPlain, answer, hEvents, rfl⟩
  rcases find_outgoing h.outgoing hPlain with
    ⟨hOutgoing, hAgrees⟩
  refine h.later hOutgoing (h.agrees.trans hAgrees) hEvents
    ?_
  cases answer with
  | ok current => rfl
  | error err =>
      cases hGone : (Failure.ofClient "" err).isNotFound with
      | false => exact hGone
      | true =>
          cases hOutcome.trans
            (Workload.absence_of_isNotFound hGone)

/- There is a deletion in the record, and from it on nothing
   of the one kind. -/
theorem any_isDeletion
    (h : Leaving job old kind c s)
    (tail : List Answered) :
    (s.system.events ++ tail).any (·.isDeletion) = true := by
  rcases h.deleted with
    ⟨before, request, after, hSplit, -, hDeletion, -⟩
  simp [hSplit, hDeletion]

theorem dropWhile_eq
    (h : Leaving job old kind c s)
    (tail : List Answered) :
    ∃ request after, request.isDeletion = true ∧
      (∀ later ∈ after, kind later = false) ∧
      (s.system.events ++ tail).dropWhile
          (!·.isDeletion) =
        request :: after ++ tail := by
  rcases h.deleted with
    ⟨before, request, after, hSplit, hBefore, hDeletion,
      hAfter⟩
  refine ⟨request, after, hDeletion, hAfter, ?_⟩
  rw [hSplit, List.append_assoc,
    List.dropWhile_append_of_pos]
  · simp [hDeletion]
  · intro earlier hEarlier
    simp [(hBefore earlier hEarlier).1]

/- Unless a job was created, a replacement is not settled. -/
theorem not_settled_upsert
    (h : Leaving job old Answered.isCreation c s) :
    Command.upsert.settled s.system.events = false := by
  rcases h.deleted with
    ⟨before, request, after, hSplit, hBefore, hDeletion,
      hAfter⟩
  have hRequest :=
    Answered.not_isCreation_of_isDeletion hDeletion
  rw [Command.settled, hSplit, List.any_eq_false]
  intro asked hAsked
  simp only [List.mem_append, List.mem_cons] at hAsked
  rcases hAsked with hFirst | rfl | hLast
  · simp [(hBefore asked hFirst).2]
  · simp [hRequest]
  · simp [hAfter asked hLast]

/- Unless a job was said to be gone since, a deletion is not
   settled. -/
theorem not_settled_delete
    {cascade : Bool}
    (h : Leaving job old Answered.isAbsence c s) :
    (Command.delete cascade).settled s.system.events =
      false := by
  rcases h.dropWhile_eq [] with
    ⟨request, after, hDeletion, hAfter, hDrop⟩
  have hRequest : request.isAbsence = false := by
    cases request with
    | getJob key answer => cases hDeletion
    | _ => rfl
  rw [List.append_nil] at hDrop
  rw [Command.settled, hDrop, List.any_eq_false]
  intro asked hAsked
  simp only [List.append_nil, List.mem_cons] at hAsked
  rcases hAsked with rfl | hLast
  · simp [hRequest]
  · simp [hAfter asked hLast]

/- The creation that succeeds puts the new job in its
   place. -/
theorem created
    (h : Leaving job old Answered.isCreation c s)
    (hCreate :
      (onCluster job settings).recorded.workload.create.Leads
        s (.ok ()) s') :
    s'.system.system.terminating.get? job.target = none ∧
      s'.system.system.jobs.get? job.target =
        some (Cluster.versioned (c.uidOf (c.version + 1))
          (c.version + 1) (submission job)) ∧
      s'.system.system.pods = c.pods ∧
      ∀ tail,
        (s'.system.events ++ tail).any (·.isDeletion) =
            true ∧
          Command.upsert.settled (s'.system.events ++ tail) =
            true := by
  rcases recorded_create hCreate with
    ⟨hPlain, answer, hEvents, hOutcome⟩
  rcases h.outgoing.departs with ⟨left, hDeparts⟩
  rcases create_departing hDeparts h.agrees hPlain with
    ⟨_, _, hError, -⟩ | ⟨-, hStaying, hStored, hPods⟩
  · cases hError
  refine ⟨hStaying, hStored, hPods, ?_⟩
  intro tail
  rw [hEvents, List.append_assoc]
  refine ⟨h.any_isDeletion _, ?_⟩
  cases answer with
  | error err => cases hOutcome
  | ok stored =>
      simp [Command.settled, Answered.isCreation]

/- The look that finds the job gone leaves the pods alone. -/
theorem seen
    (h : Leaving job old Answered.isAbsence c s)
    (hLook :
      (onCluster job settings).recorded.workload.absent.Leads
        s (.ok ()) s')
    (cascade : Bool) :
    s'.system.system.pods = c.pods ∧
      ∀ tail,
        (s'.system.events ++ tail).any (·.isDeletion) =
            true ∧
          (Command.delete cascade).settled
              (s'.system.events ++ tail) =
            true := by
  rcases Workload.leads_absent hLook with
    ⟨found, hFind, hOutcome⟩
  rcases recorded_find hFind with
    ⟨hPlain, answer, hEvents, rfl⟩
  rcases find_outgoing h.outgoing hPlain with ⟨-, hAgrees⟩
  refine ⟨hAgrees.pods.trans h.agrees.pods, ?_⟩
  intro tail
  rw [hEvents, List.append_assoc]
  refine ⟨h.any_isDeletion _, ?_⟩
  rcases h.dropWhile_eq (_ ++ tail) with
    ⟨request, after, -, -, hDrop⟩
  rw [Command.settled, hDrop]
  cases answer with
  | ok current => cases hOutcome
  | error err =>
      cases hGone : (Failure.ofClient "" err).isNotFound with
      | true => simp [Answered.isAbsence, hGone]
      | false =>
          cases hOutcome.trans
            (Workload.absence_of_not_isNotFound hGone)

end Leaving

end JobController

end Redeploy

------------------------------------------------------------
-- Pods That Stay
------------------------------------------------------------

namespace Redeploy

namespace JobController

variable {ns : String}
variable {pods : List Pod}
variable {e : Failure}
variable {s s' : Situation (Watched Cluster Answered)}

/-
  Where the deletion of pods fails, those before the one that
  it fails with may be gone, and the others are not.  The
  induction keeps the pods that are left in place, which is
  why no two of them may stand under one key.
-/
theorem stuck_sweeps
    (hStored :
      ∀ pod ∈ pods,
        s.system.system.pods.get? (pod.keyIn ns) = some pod)
    (hDistinct : (pods.map (·.keyIn ns)).Nodup)
    (h : NodePods.Sweeps Cluster.client.recorded ns pods s
      (.error e) s') :
    s'.system.system.jobs = s.system.system.jobs ∧
      s'.system.system.terminating =
        s.system.system.terminating ∧
      (∃ tail,
        s'.system.events = s.system.events ++ tail) ∧
      Stuck ns pods s'.system.events e s.system.system.pods
        s'.system.system.pods := by
  generalize hOutcome : (Except.error e : Except _ Unit) =
    outcome at h
  induction h with
  | done => cases hOutcome
  | @next pod rest s s₁ s' answer _ hPod _ _ ih =>
      rcases Client.recorded_deletePod hPod with
        ⟨hPlain, hEvents⟩
      rcases Cluster.leads_deletePod hPlain with ⟨hStep, -⟩
      rcases Cluster.deletePod_loses hStep with
        ⟨hJobs, hTerminating, hLoses⟩
      rcases List.nodup_cons.mp hDistinct with
        ⟨hOther, hRestDistinct⟩
      have hRestStored :
          ∀ other ∈ rest,
            s₁.system.system.pods.get? (other.keyIn ns) =
              some other := by
        intro other hIn
        rcases hLoses (other.keyIn ns) with
          hSame | ⟨-, hKey⟩
        · rw [← hStored other (List.mem_cons_of_mem _ hIn)]
          exact hSame
        · have hAgain :
              other.keyIn ns ∈ rest.map (·.keyIn ns) :=
            List.mem_map_of_mem hIn
          rw [hKey] at hAgain
          exact absurd hAgain hOther
      rcases ih hRestStored hRestDistinct hOutcome with
        ⟨hJobs', hTerminating', ⟨tail, hTail⟩, hStuck⟩
      have hAll :
          s'.system.events =
            s.system.events ++
              (.deletePod (pod.keyIn ns) answer :: tail) := by
        rw [hTail, hEvents]
        simp
      refine ⟨hJobs'.trans hJobs,
        hTerminating'.trans hTerminating, ⟨_, hAll⟩, ?_⟩
      cases hStuck with
      | @stays early late _ _ hPods hLast hFailure hRemoved
          hStay =>
          have hSplit :
              pod :: rest = pod :: early ++ _ :: late :=
            congrArg (pod :: ·) hPods
          refine .stays hSplit hLast hFailure ?_ hStay
          intro key
          rcases hRemoved key with hSame | ⟨hNone, hIn⟩
          · rw [hSame]
            refine (hLoses key).imp_right ?_
            rintro ⟨hNone, rfl⟩
            exact ⟨hNone, List.mem_cons_self ..⟩
          · exact .inr ⟨hNone, List.mem_cons_of_mem _ hIn⟩
  | @stop pod rest s s' answer _ hPod hStays =>
      cases hOutcome
      rcases Client.recorded_deletePod hPod with
        ⟨hPlain, hEvents⟩
      rcases Cluster.leads_deletePod hPlain with ⟨hStep, -⟩
      rcases Cluster.deletePod_cases hStep with
        ⟨status, -, rfl, hAfter⟩ | ⟨-, rfl | rfl, -⟩
      · replace hAfter :
            s'.system.system =
              s.system.system.heard
                (.deletePod (pod.keyIn ns)) := hAfter
        have hFailure :
            e = Failure.ofClient "" (.status status) := by
          cases (Pod.deletion_eq_error_iff.mp hStays).2
          rfl
        rw [hAfter]
        refine ⟨rfl, rfl, ⟨_, hEvents⟩, ?_⟩
        refine .stays (List.nil_append _).symm ?_ hFailure
          (fun _ => .inl rfl) hStored
        rw [hEvents]
        exact List.getLast?_concat
      · cases hStays
      · cases hStays

end JobController

end Redeploy

------------------------------------------------------------
-- Runs
------------------------------------------------------------

namespace Redeploy

namespace JobController

variable {job : Job}
variable {settings : Settings}
variable {attempts : Nat}
variable {c : Cluster}
variable {s s' : Situation (Watched Cluster Answered)}
variable {e : Failure}

/- Where the pods that were collected of a job are deleted and
   one of them stays. -/
private theorem stuck_collected
    {old : Job}
    (hKeys :
      ∀ key pod, c.pods.get? key = some pod →
        pod.key = key)
    (hPods : s.system.system.pods = c.pods)
    (h :
      NodePods.Sweeps
        (onCluster job settings).recorded.workload.client
        (onCluster job settings).recorded.workload.identity.ns
        (c.collected old job.target.ns).values s (.error e)
        s') :
    s'.system.system.jobs = s.system.system.jobs ∧
      s'.system.system.terminating =
        s.system.system.terminating ∧
      (∃ tail,
        s'.system.events = s.system.events ++ tail) ∧
      Stuck job.target.ns
        (c.collected old job.target.ns).values
        s'.system.events e c.pods s'.system.system.pods := by
  have hNs :
      (onCluster job settings).recorded.workload.identity.ns =
        job.target.ns :=
    workload_onCluster_ns job settings
  rw [hNs] at h
  rw [← hPods]
  apply stuck_sweeps _ (Cluster.nodup_stale hKeys) h
  intro pod hPod
  rw [hPods]
  exact (Cluster.owns_of_mem_collected hKeys hPod).stored

/- What a replacement that fails has left. -/
theorem Intact.upserts
    (hAttempts : 0 < attempts)
    (hKeys :
      ∀ key pod, c.pods.get? key = some pod →
        pod.key = key)
    (hStaying : c.terminating.get? job.target = none)
    (hStart : Intact c s)
    (hNodes : s'.system.system.nodes = c.nodes)
    (h :
      (onCluster job settings).recorded.workload.Upserts
        attempts s (.error e) s') :
    Residue job .upsert s'.system.events e c
      s'.system.system := by
  cases h with
  | unreadable hFind =>
      exact (hStart.find hStaying hFind).1.residue hNodes
  | fresh hFind _ hCreate =>
      have hLooked := (hStart.find hStaying hFind).1
      rcases hCreate.invariant
          (fun _ _ _ hBefore hCall =>
            Intact.create hStaying hBefore hCall)
          hAttempts hLooked with
        ⟨_, -, hLast⟩ | ⟨hOk, -⟩
      · exact hLast.residue hNodes
      · cases hOk
  | uncollected hFind hPods =>
      have hLooked := (hStart.find hStaying hFind).1
      exact (hLooked.podsOf hPods).1.residue hNodes
  | unremoved hFind hPods hRemove =>
      have hLooked := (hStart.find hStaying hFind).1
      have hListed := (hLooked.podsOf hPods).1
      exact (hListed.remove hRemove).residue hNodes
  | uncreated hFind hPods hRemove hCreate =>
      rcases hStart.find hStaying hFind with
        ⟨hLooked, hFound⟩
      have hListed := (hLooked.podsOf hPods).1
      have hOld := hFound _ rfl
      rcases hCreate.invariant
          (fun _ _ _ hBefore hCall =>
            Leaving.create hBefore hCall)
          hAttempts (.start hListed hOld hRemove) with
        ⟨_, -, hLast⟩ | ⟨hOk, -⟩
      · have hDeleted := hLast.any_isDeletion []
        rw [List.append_nil] at hDeleted
        exact .outgoing hDeleted hLast.not_settled_upsert hOld
          hLast.outgoing
          (hLast.agrees.pods.trans hListed.same.pods)
      · cases hOk
  | replaced hFind hPods hRemove hCreate hSweep =>
      rcases hStart.find hStaying hFind with
        ⟨hLooked, hFound⟩
      rcases hLooked.podsOf hPods with
        ⟨hListed, hCollected⟩
      have hOld := hFound _ rfl
      cases hCollected _ rfl
      rcases hCreate.invariant
          (fun _ _ _ hBefore hCall =>
            Leaving.create hBefore hCall)
          hAttempts (.start hListed hOld hRemove) with
        ⟨_, hError, -⟩ | ⟨-, t, hLast, hCall⟩
      · cases hError
      rcases hLast.created hCall with
        ⟨hFree, hStored, hSame, hRecord⟩
      rw [hListed.same.uidOf, hListed.same.version]
        at hStored
      rcases stuck_collected hKeys
          (hSame.trans hListed.same.pods) hSweep with
        ⟨hJobs, hTerminating, ⟨tail, hTail⟩, hStuck⟩
      rcases hRecord tail with ⟨hDeleted, hSettled⟩
      rw [← hTail] at hDeleted hSettled
      refine .stuck hDeleted hSettled hOld ?_ hStuck
      intro _
      rw [hTerminating, hJobs]
      exact ⟨hFree, hStored⟩

/- What a deletion that fails has left. -/
theorem Intact.deletes
    {cascade : Bool}
    (hAttempts : 0 < attempts)
    (hKeys :
      ∀ key pod, c.pods.get? key = some pod →
        pod.key = key)
    (hStaying : c.terminating.get? job.target = none)
    (hStart : Intact c s)
    (hNodes : s'.system.system.nodes = c.nodes)
    (h :
      (onCluster job settings).recorded.workload.Deletes
        cascade attempts s (.error e) s') :
    Residue job (.delete cascade) s'.system.events e c
      s'.system.system := by
  have hCollect
      {current : Job}
      {collected : Except Failure NodePods}
      {t t' : Situation (Watched Cluster Answered)}
      (hBefore : Intact c t)
      (hPods :
        (onCluster job settings).recorded.workload.Collects
          current t cascade collected t') :
      Intact c t' := by
    cases hPods with
    | skipped => exact hBefore
    | asked hPods => exact (hBefore.podsOf hPods).1
  cases h with
  | unfound hFind =>
      exact (hStart.find hStaying hFind).1.residue hNodes
  | uncollected hFind hPods =>
      have hLooked := (hStart.find hStaying hFind).1
      exact (hCollect hLooked hPods).residue hNodes
  | unremoved hFind hPods hRemove =>
      have hLooked := (hStart.find hStaying hFind).1
      have hListed := hCollect hLooked hPods
      exact (hListed.remove hRemove).residue hNodes
  | lingering hFind hPods hRemove hWait =>
      rcases hStart.find hStaying hFind with
        ⟨hLooked, hFound⟩
      have hListed := hCollect hLooked hPods
      have hOld := hFound _ rfl
      rcases hWait.invariant
          (fun _ _ _ hBefore hCall =>
            Leaving.look hBefore hCall)
          hAttempts (.start hListed hOld hRemove) with
        ⟨_, -, hLast⟩ | ⟨hOk, -⟩
      · have hDeleted := hLast.any_isDeletion []
        rw [List.append_nil] at hDeleted
        exact .outgoing hDeleted hLast.not_settled_delete hOld
          hLast.outgoing
          (hLast.agrees.pods.trans hListed.same.pods)
      · cases hOk
  | gone hFind hPods hRemove hWait hSweep =>
      rcases hStart.find hStaying hFind with
        ⟨hLooked, hFound⟩
      have hOld := hFound _ rfl
      cases hPods with
      | skipped =>
          -- Without pods there is none that could stay.
          cases hSweep
      | asked hPods =>
          rcases hLooked.podsOf hPods with
            ⟨hListed, hCollected⟩
          cases hCollected _ rfl
          rcases hWait.invariant
              (fun _ _ _ hBefore hCall =>
                Leaving.look hBefore hCall)
              hAttempts (.start hListed hOld hRemove) with
            ⟨_, hError, -⟩ | ⟨-, t, hLast, hCall⟩
          · cases hError
          rcases hLast.seen hCall true with
            ⟨hSame, hRecord⟩
          rcases stuck_collected hKeys
              (hSame.trans hListed.same.pods) hSweep with
            ⟨-, -, ⟨tail, hTail⟩, hStuck⟩
          rcases hRecord tail with ⟨hDeleted, hSettled⟩
          rw [← hTail] at hDeleted hSettled
          refine .stuck hDeleted hSettled hOld ?_ hStuck
          intro hUpsert
          cases hUpsert

/-
  Whatever command fails, whichever failures are scripted and
  whenever all is cancelled, the answers that it got tell
  what it has left: everything as it was, or all pods and at
  most the old job on its way out, or some of the pods that
  were to be deleted.
-/
theorem failed_residue
    {controller : JobController Cluster}
    (command : Command)
    {w after : World Cluster}
    (hAccepted :
      ofJob job (some Cluster.client) settings =
        .ok controller)
    (hReachable : w.system.Reachable)
    (hStaying :
      w.system.terminating.get? job.target = none)
    (hFailed :
      (controller.perform command).run w =
        (.error e, after)) :
    ∃ record,
      (controller.recorded.perform command).run
          (w.beside []) =
        (.error e, after.beside record) ∧
      Residue job command record e w.system
        after.system := by
  cases eq_onCluster hAccepted
  have hKeys := hReachable.sound.pod_key
  rcases (onCluster job settings).exists_record command w with
    ⟨record, hRun⟩
  rw [hFailed] at hRun
  have hNodes :=
    (confined_perform hKeys hRun).nodes
  have hLeads :
      ((onCluster job settings).recorded.perform
        command).Leads (w.beside []).situation (.error e)
          (after.beside record).situation :=
    ⟨_, _, rfl, hRun, rfl⟩
  have hStart : Intact w.system (w.beside []).situation :=
    { same := .refl _
      spared := by
        intro request hRequest
        cases hRequest }
  refine ⟨record, hRun, ?_⟩
  cases command with
  | upsert =>
      replace hLeads :
          (onCluster job settings).recorded.upsert.Leads
            _ (.error e) _ := hLeads
      have hAttempts :=
        (settings.createBackoff.fills_orElse
          .create).attempts_pos (by decide)
      exact hStart.upserts hAttempts hKeys hStaying hNodes
        (Workload.leads_upsert hLeads.within)
  | delete cascade =>
      replace hLeads :
          ((onCluster job settings).recorded.delete
            cascade).Leads _ (.error e) _ := hLeads
      have hAttempts :=
        (settings.deleteWait.fills_orElse
          .deleteWait).attempts_pos (by decide)
      exact hStart.deletes hAttempts hKeys hStaying hNodes
        (Workload.leads_delete hLeads.within)
  | status =>
      rcases leads_status hLeads with ⟨_, hFind⟩
      exact (hStart.find hStaying hFind).1.residue hNodes
  | awaitCompletion =>
      have hLast : Intact w.system _ :=
        awaitCompletion_preserves
          (fun _ _ _ hBefore hFind =>
            (hBefore.find hStaying hFind).1)
          hStart hLeads
      exact hLast.residue hNodes

end JobController

namespace Sample

open JobController

/- A cluster that refuses to delete one pod, once. -/
def clinging : World Cluster :=
  world [.queueFailure .deletePod (.internal "down")]

/- How an upsert fails there, and where it leads. -/
def down : Failure :=
  .client (.status (.internal "down"))

def clung : World Cluster :=
  (((onCluster job {}).perform .upsert).run clinging).2

theorem upsert_clinging :
    ((onCluster job {}).perform .upsert).run clinging =
      (.error down, clung) := by
  have hFails
      (outcome : Except Failure Unit)
      (h :
        (match outcome with
          | .error e => decide (e = down)
          | .ok _ => false) = true) :
      outcome = .error down := by
    cases outcome with
    | ok => cases h
    | error e => rw [of_decide_eq_true h]
  have hOutcome :=
    hFails
      (((onCluster job {}).perform .upsert).run clinging).1
      (by decide +kernel)
  unfold clung
  rw [← hOutcome]

end Sample

namespace JobController

/- There a new job is in place of the old one, and the pod is
   still stored. -/
theorem failed_residue_clinging :
    ofJob Sample.job (some Cluster.client) {} =
        .ok (onCluster Sample.job {}) ∧
      Sample.clinging.system.Reachable ∧
      Sample.clinging.system.terminating.get?
        Sample.job.target = none ∧
      ((onCluster Sample.job {}).perform .upsert).run
          Sample.clinging =
        (.error Sample.down, Sample.clung) ∧
      ∃ record,
        ((onCluster Sample.job {}).recorded.perform
            .upsert).run (Sample.clinging.beside []) =
          (.error Sample.down, Sample.clung.beside record) ∧
        Residue Sample.job .upsert record Sample.down
          Sample.clinging.system Sample.clung.system := by
  have hAccepted :
      ofJob Sample.job (some Cluster.client) {} =
        .ok (onCluster Sample.job {}) :=
    ofJob_eq_onCluster (by decide) {}
  have hReachable : Sample.clinging.system.Reachable :=
    Sample.reachable_world _
  exact ⟨hAccepted, hReachable, rfl, Sample.upsert_clinging,
    failed_residue .upsert hAccepted hReachable rfl
      Sample.upsert_clinging⟩

end JobController

end Redeploy
