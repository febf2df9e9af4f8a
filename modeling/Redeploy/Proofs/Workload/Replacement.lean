import Redeploy.Proofs.Workload.Event

/-
  The order of events in a replacement.

  Key definitions include:
    * `Event.Replacement`

  Main results:
    * `Workload.Upserts.replacement`
    * `Workload.upsert_replacement`

  Whatever the capabilities of a workload do, replacing it
  leaves one of six sequences of events.  Nothing is deleted
  before the pods are known, nothing is created in place of
  an object that was not deleted, and pods are deleted only
  once the new object is there.
-/

------------------------------------------------------------
-- Sequences of Events
------------------------------------------------------------

namespace Redeploy

namespace Workload

namespace Event

variable {Object : Type}

/- The events of a replacement that makes at most a number
   of attempts to create, and how it ends. -/
inductive Replacement
    (attempts : Nat)
    (ns : String)
    (cancelled : Prop) :
    List (Event Object) → Except Failure Unit → Prop where
  | unreadable
      {e : Failure}
      (hReal : e.isNotFound = false) :
      Replacement attempts ns cancelled [.find (.error e)]
        (.error e)
  | fresh
      {e : Failure}
      {creations : List (Event Object)}
      {outcome : Except Failure Unit}
      (hAbsent : e.isNotFound = true)
      (hCreate :
        Creations attempts cancelled creations outcome) :
      Replacement attempts ns cancelled
        (.find (.error e) :: creations) outcome
  | uncollected
      {object : Object}
      {e : Failure} :
      Replacement attempts ns cancelled
        [.find (.ok object), .podsOf object (.error e)]
        (.error e)
  | unremoved
      {object : Object}
      {pods : NodePods}
      {e : Failure} :
      Replacement attempts ns cancelled
        [.find (.ok object), .podsOf object (.ok pods),
          .remove none (.error e)]
        (.error e)
  | uncreated
      {object : Object}
      {pods : NodePods}
      {creations : List (Event Object)}
      {e : Failure}
      (hCreate :
        Creations attempts cancelled creations
          (.error e)) :
      Replacement attempts ns cancelled
        ([.find (.ok object), .podsOf object (.ok pods),
          .remove none (.ok ())] ++ creations)
        (.error e)
  | replaced
      {object : Object}
      {pods : NodePods}
      {creations deletions : List (Event Object)}
      {outcome : Except Failure Unit}
      (hCreate :
        Creations attempts cancelled creations (.ok ()))
      (hDelete :
        Deletions ns pods.values deletions outcome) :
      Replacement attempts ns cancelled
        ([.find (.ok object), .podsOf object (.ok pods),
          .remove none (.ok ())] ++ creations ++ deletions)
        outcome

/- Whether an event ends a replacement with its failure. -/
def isFatal : Event Object → Bool
  | .find (.error e) => !e.isNotFound
  | .podsOf _ (.error _) => true
  | .remove _ (.error _) => true
  | .request _ answer => !(Pod.deletion answer).isOk
  | _ => false

end Event

end Workload

end Redeploy

------------------------------------------------------------
-- Creations and Deletions in a Sequence
------------------------------------------------------------

namespace Redeploy

namespace Workload

namespace Event

variable {Object : Type}
variable {attempts : Nat}
variable {ns : String}
variable {cancelled : Prop}

/- Creations are no other events. -/
theorem Creations.eq_create
    {events : List (Event Object)}
    {outcome : Except Failure Unit}
    (h : Creations attempts cancelled events outcome) :
    ∀ event ∈ events,
      ∃ created, event = .create created := by
  rcases h with ⟨failures, -, rfl, -⟩
  intro event hEvent
  rcases List.mem_append.mp hEvent with hFailed | hLast
  · rcases List.mem_map.mp hFailed with ⟨e, -, rfl⟩
    exact ⟨_, rfl⟩
  · exact ⟨_, List.mem_singleton.mp hLast⟩

theorem Creations.not_fatal
    {events : List (Event Object)}
    {outcome : Except Failure Unit}
    (h : Creations attempts cancelled events outcome) :
    ∀ event ∈ events, event.isFatal = false := by
  intro event hEvent
  rcases h.eq_create event hEvent with ⟨created, rfl⟩
  cases created <;> rfl

/- A creation succeeded only if the last one did. -/
theorem Creations.create_ok_mem_iff
    {events : List (Event Object)}
    {outcome : Except Failure Unit}
    (h : Creations attempts cancelled events outcome) :
    .create (.ok ()) ∈ events ↔ outcome = .ok () := by
  rcases h with ⟨failures, -, rfl, -⟩
  simp [eq_comm]

/- Deletions succeed exactly if none of them fails. -/
theorem Deletions.ok_iff
    {pods : List Pod}
    {events : List (Event Object)}
    {outcome : Except Failure Unit}
    (h : Deletions ns pods events outcome) :
    outcome = .ok () ↔
      ∀ event ∈ events, event.isFatal = false := by
  induction h with
  | done => simp
  | next hGone _ ih =>
      rw [ih]
      simp [isFatal, hGone, Except.isOk, Except.toBool]
  | stop hStays =>
      simp [isFatal, hStays, Except.isOk, Except.toBool]

end Event

end Workload

end Redeploy

------------------------------------------------------------
-- Replacements
------------------------------------------------------------

namespace Redeploy

namespace Workload

variable {σ Object : Type}

namespace Event

variable {attempts : Nat}
variable {ns : String}
variable {cancelled : Prop}

/-
  A request in a replacement deletes a pod of the set that
  was collected for the object that was found, and a new
  object was created before.
-/
theorem Replacement.before_request
    {events : List (Event Object)}
    {outcome : Except Failure Unit}
    (h : Replacement attempts ns cancelled events outcome)
    {before after : List (Event Object)}
    {call : Call}
    {answer : Except ClientError Unit}
    (hEvents :
      events = before ++ .request call answer :: after) :
    ∃ object pods, .find (.ok object) ∈ before ∧
      .podsOf object (.ok pods) ∈ before ∧
      .create (.ok ()) ∈ before ∧
      ∃ pod ∈ pods.values,
        call = .deletePod (pod.keyIn ns) := by
  have hMem : .request call answer ∈ events := by
    simp [hEvents]
  cases h with
  | unreadable => simp at hMem
  | fresh _ hCreate =>
      rcases List.mem_cons.mp hMem with hFind | hCreation
      · cases hFind
      · rcases hCreate.eq_create _ hCreation with ⟨_, hEq⟩
        cases hEq
  | uncollected => simp at hMem
  | unremoved => simp at hMem
  | uncreated hCreate =>
      rcases List.mem_append.mp hMem with hFirst | hCreation
      · simp at hFirst
      · rcases hCreate.eq_create _ hCreation with ⟨_, hEq⟩
        cases hEq
  | @replaced object pods creations deletions _ hCreate
      hDelete =>
      have hNot :
          .request call answer ∉
            [.find (.ok object), .podsOf object (.ok pods),
              .remove none (.ok ())] ++ creations := by
        intro hFront
        rcases List.mem_append.mp hFront with
          hFirst | hCreation
        · simp at hFirst
        · rcases hCreate.eq_create _ hCreation with ⟨_, hEq⟩
          cases hEq
      rcases exists_append_of_not_mem hNot hEvents with
        ⟨rest, rfl, hBack⟩
      have hCreated : .create (.ok ()) ∈ creations :=
        hCreate.create_ok_mem_iff.mpr rfl
      rcases hDelete.request_mem (.request call answer)
          (by simp [hBack]) with
        ⟨pod, hPod, _, hEq⟩
      cases hEq
      exact ⟨object, pods, by simp, by simp,
        by simp [hCreated], pod, hPod, rfl⟩

/- A replacement succeeds exactly if an object was created
   and nothing else failed. -/
theorem Replacement.ok_iff
    {events : List (Event Object)}
    {outcome : Except Failure Unit}
    (h : Replacement attempts ns cancelled events outcome) :
    outcome = .ok () ↔
      .create (.ok ()) ∈ events ∧
        ∀ event ∈ events, event.isFatal = false := by
  cases h with
  | unreadable => simp
  | @fresh e _ _ hAbsent hCreate =>
      have hFind :
          isFatal (.find (.error e) : Event Object) =
            false := by
        simpa [isFatal] using hAbsent
      rw [← hCreate.create_ok_mem_iff]
      constructor
      · intro hCreated
        refine ⟨List.mem_cons_of_mem _ hCreated, ?_⟩
        exact List.forall_mem_cons.mpr
          ⟨hFind, hCreate.not_fatal⟩
      · rintro ⟨hCreated, -⟩
        simpa using hCreated
  | uncollected => simp
  | unremoved => simp
  | uncreated hCreate =>
      have hNone := hCreate.create_ok_mem_iff
      simp only [reduceCtorEq, iff_false] at hNone
      simp [hNone]
  | @replaced object pods creations deletions _ hCreate
      hDelete =>
      have hCreated : .create (.ok ()) ∈ creations :=
        hCreate.create_ok_mem_iff.mpr rfl
      rw [hDelete.ok_iff]
      constructor
      · intro hDeletions
        refine ⟨by simp [hCreated], ?_⟩
        intro event hEvent
        rcases List.mem_append.mp hEvent with
          hFront | hDeletion
        · rcases List.mem_append.mp hFront with
            hFirst | hCreation
          · simp only [List.mem_cons, List.not_mem_nil,
              or_false] at hFirst
            rcases hFirst with rfl | rfl | rfl <;> rfl
          · exact hCreate.not_fatal event hCreation
        · exact hDeletions event hDeletion
      · rintro ⟨-, hEvents⟩ event hDeletion
        exact hEvents event
          (List.mem_append_right _ hDeletion)

end Event

/- The ways in which a watched replacement goes leave the
   sequences of events listed. -/
theorem Upserts.replacement
    {workload : Workload σ Object}
    {attempts : Nat}
    {s s' : Situation (Watched σ (Event Object))}
    {outcome : Except Failure Unit}
    (hAttempts : 0 < attempts)
    (hStart : s.system.events = [])
    (h : workload.watched.Upserts attempts s outcome s') :
    Event.Replacement attempts workload.identity.ns
      (s'.cancelledAt ≠ none) s'.system.events outcome := by
  cases h with
  | unreadable hFind hReal =>
      rw [hFind.watched, hStart]
      exact .unreadable hReal
  | fresh hFind hAbsent hCreate =>
      rcases hCreate.creations hAttempts with
        ⟨creations, hEvents, hCreations⟩
      rw [hEvents, hFind.watched, hStart]
      exact .fresh hAbsent hCreations
  | uncollected hFind hPods =>
      rw [hPods.watched, hFind.watched, hStart]
      exact .uncollected
  | unremoved hFind hPods hRemove =>
      rw [hRemove.watched, hPods.watched, hFind.watched,
        hStart]
      exact .unremoved
  | uncreated hFind hPods hRemove hCreate =>
      rcases hCreate.creations hAttempts with
        ⟨creations, hEvents, hCreations⟩
      rw [hEvents, hRemove.watched, hPods.watched,
        hFind.watched, hStart]
      exact .uncreated hCreations
  | replaced hFind hPods hRemove hCreate hSweep =>
      rcases hCreate.creations hAttempts with
        ⟨creations, hCreated, failures, hFew, rfl, -⟩
      rcases hSweep.deletions with
        ⟨deletions, hDeleted, hDeletions⟩
      rw [hDeleted, hCreated, hRemove.watched,
        hPods.watched, hFind.watched, hStart]
      refine .replaced ⟨failures, hFew, rfl, ?_⟩ hDeletions
      intro e hError
      cases hError

/-
  A replacement, of any workload and however it is
  cancelled, leaves the events of one of the sequences
  listed.  Requests are made only to delete pods of the old
  object after a new one was created, and the replacement
  succeeds exactly if an object was created and no event was
  fatal.
-/
theorem upsert_replacement
    (workload : Workload σ Object)
    (backoff : BackoffPolicy)
    (w : World σ) :
    ∃ events outcome after,
      (workload.upsert backoff).run w = (outcome, after) ∧
      (workload.watched.upsert backoff).run (w.beside []) =
        (outcome, after.beside events) ∧
      Event.Replacement
        (if backoff.attempts = 0 then 8
          else backoff.attempts)
        workload.identity.ns (after.cancelledAt ≠ none)
        events outcome ∧
      (∀ before rest call answer,
        events = before ++ .request call answer :: rest →
        ∃ object pods, .find (.ok object) ∈ before ∧
          .podsOf object (.ok pods) ∈ before ∧
          .create (.ok ()) ∈ before ∧
          ∃ pod ∈ pods.values,
            call = .deletePod
              (pod.keyIn workload.identity.ns)) ∧
      (outcome = .ok () ↔
        .create (.ok ()) ∈ events ∧
          ∀ event ∈ events, event.isFatal = false) := by
  let act := workload.watched.upsert backoff
  have hCourse :=
    leads_upsert (act.leads_run (w.beside []))
  have hAttempts : 0 < (backoff.orElse .create).attempts := by
    simp only [BackoffPolicy.orElse, BackoffPolicy.create]
    split <;> omega
  have hHistory := hCourse.replacement hAttempts rfl
  refine ⟨(act.run (w.beside [])).2.system.events,
    (act.run (w.beside [])).1,
    (act.run (w.beside [])).2.unwatched,
    erases_upsert workload backoff (w.beside []), rfl,
    hHistory, ?_, hHistory.ok_iff⟩
  intro before rest call answer hEvents
  exact hHistory.before_request hEvents

end Workload

end Redeploy
