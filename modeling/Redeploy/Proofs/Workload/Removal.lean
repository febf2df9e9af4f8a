import Redeploy.Cluster
import Redeploy.Proofs.Retry.Engine
import Redeploy.Proofs.Workload.Event
import Redeploy.Rehearsal

/-
  The order of events in a deletion.

  Key definitions include:
    * `Workload.stillThere`
    * `Event.Looks`
    * `Event.Removal`

  Main results:
    * `Workload.run_await_absent`
    * `Workload.delete_removal`
    * `Workload.delete_waits_on_compareFailed`

  Whatever the capabilities of a workload do, deleting it
  leaves one of five sequences of events.  Pods are deleted
  only once a look after the deletion of the object finds
  nothing, and no deletion succeeds without that look.
-/

------------------------------------------------------------
-- Looks at an Object
------------------------------------------------------------

namespace Redeploy

namespace Workload

variable {σ Object : Type}

/- Whether a look says that the object is not gone yet: it
   was found, or it failed with "not yet". -/
def stillThere : Except Failure Object → Bool
  | .ok _ => true
  | .error e => e.isCompareFailed

/-
  Looks at an object one after the other, all of which but
  perhaps the last say that it is not gone yet.  There are at
  most as many as attempts, and the last says so only if
  there are as many or where all is cancelled.
-/
def Event.Looks
    (workload : Workload σ Object)
    (attempts : Nat)
    (cancelled : Prop)
    (events : List (Event Object))
    (outcome : Except Failure Unit) : Prop :=
  ∃ earlier last,
    earlier.length < attempts ∧
      events = (earlier ++ [last]).map .find ∧
      (∀ found ∈ earlier, stillThere found = true) ∧
      outcome = workload.absence last ∧
      (stillThere last = true →
        earlier.length + 1 = attempts ∨ cancelled)

/- A wait goes on exactly while the object is not gone. -/
theorem worthAnother_absence
    (workload : Workload σ Object)
    (found : Except Failure Object) :
    Retry.worthAnother Failure.isCompareFailed
        (workload.absence found) =
      stillThere found := by
  cases found with
  | ok object => rfl
  | error e => cases e <;> rfl

/- A wait that ends while the object is not gone ends with
   "not yet". -/
theorem absence_of_stillThere
    (workload : Workload σ Object)
    {found : Except Failure Object}
    (hThere : stillThere found = true) :
    ∃ text,
      workload.absence found =
        .error (.compareFailed text) := by
  cases found with
  | ok object => exact ⟨_, rfl⟩
  | error e =>
      cases e with
      | compareFailed text => exact ⟨text, rfl⟩
      | _ => cases hThere

/- It succeeds only after a look that found nothing. -/
theorem absence_eq_ok
    {workload : Workload σ Object}
    {found : Except Failure Object}
    (hGone : workload.absence found = .ok ()) :
    ∃ e, found = .error e ∧ e.isNotFound = true := by
  cases found with
  | ok object => cases hGone
  | error e =>
      cases hFound : e.isNotFound with
      | true => exact ⟨e, rfl, hFound⟩
      | false => simp [absence, hFound] at hGone

namespace Event.Looks

variable {workload : Workload σ Object}
variable {attempts : Nat}
variable {cancelled : Prop}
variable {events : List (Event Object)}
variable {outcome : Except Failure Unit}

/- Looks are no other events. -/
theorem eq_find
    (h : Looks workload attempts cancelled events outcome) :
    ∀ event ∈ events, ∃ found, event = .find found := by
  rcases h with ⟨earlier, last, -, rfl, -⟩
  intro event hEvent
  rcases List.mem_map.mp hEvent with ⟨found, -, rfl⟩
  exact ⟨found, rfl⟩

/- If the wait succeeds, the last look found nothing. -/
theorem ends_notFound
    (h : Looks workload attempts cancelled events
      (.ok ())) :
    ∃ earlier e, e.isNotFound = true ∧
      events = earlier ++ [.find (.error e)] := by
  rcases h with ⟨earlier, last, -, rfl, -, hOutcome, -⟩
  rcases absence_eq_ok hOutcome.symm with ⟨e, rfl, hGone⟩
  exact ⟨earlier.map .find, e, hGone, by simp⟩

/- A wait that succeeds was not cut short. -/
theorem of_ok
    {cancelled' : Prop}
    (h : Looks workload attempts cancelled events
      (.ok ())) :
    Looks workload attempts cancelled' events (.ok ()) := by
  rcases h with
    ⟨earlier, last, hFew, hEvents, hThere, hOutcome, -⟩
  refine
    ⟨earlier, last, hFew, hEvents, hThere, hOutcome, ?_⟩
  intro hStays
  rcases workload.absence_of_stillThere hStays with
    ⟨text, hError⟩
  rw [hError] at hOutcome
  cases hOutcome

end Event.Looks

end Workload

end Redeploy

------------------------------------------------------------
-- Waiting for the Absence
------------------------------------------------------------

namespace Redeploy

namespace Workload

variable {σ Object : Type}
variable {workload : Workload σ Object}
variable {w w' : World (Watched σ (Event Object))}
variable {outcome : Except Failure Unit}

/- A check of the absence is a look at the object. -/
theorem run_absent
    (h : workload.watched.absent.run w = (outcome, w')) :
    ∃ found,
      outcome = workload.absence found ∧
        w'.system.events =
          w.system.events ++ [.find found] := by
  have hLeads :
      workload.watched.absent.Leads w.situation outcome
        w'.situation :=
    ⟨w, w', rfl, h, rfl⟩
  rcases leads_absent hLeads with ⟨found, hFind, hOutcome⟩
  exact ⟨found, hOutcome, hFind.watched⟩

/-
  The checks of a wait are looks at the object, and delays
  leave no events.  The induction is on the number of checks
  before the one that is reached.
-/
private theorem reached_absent_events
    {delay : Nat → Duration}
    {found : Nat → Except Failure Object}
    (hFound :
      ∀ n,
        (Retry.tried workload.watched.absent delay w
            n).2.system.events =
          (Retry.reached workload.watched.absent delay w
            n).system.events ++ [.find (found n)])
    (n : Nat) :
    (Retry.reached workload.watched.absent delay w
        n).system.events =
      w.system.events ++
        ((List.range n).map found).map .find := by
  induction n with
  | zero => simp [Retry.reached]
  | succ n ih =>
      have hSystem :
          (Retry.reached workload.watched.absent delay w
              (n + 1)).system =
            (Retry.tried workload.watched.absent delay w
              n).2.system :=
        Retry.waited_system _ _ _
      rw [hSystem, hFound n, ih, List.range_succ]
      simp

/- A wait for the absence of an object looks at it until it
   is gone, the attempts are used up or all is cancelled. -/
theorem run_await_absent
    {wait : RetryPolicy}
    (h :
      (wait.await workload.watched.absent).run w =
        (outcome, w')) :
    ∃ events,
      w'.system.events = w.system.events ++ events ∧
        Event.Looks workload
          (wait.orElse .deleteWait).attempts w'.Cancelled
          events outcome := by
  let policy := wait.orElse .deleteWait
  let delay : Nat → Duration := fun _ => policy.period
  let absent := workload.watched.absent
  have hAttempts : 0 < policy.attempts :=
    (wait.fills_orElse .deleteWait).attempts_pos (by decide)
  have hRepeats :=
    Retry.repeats_period Failure.isCompareFailed
      policy.attempts policy.period
  rcases hRepeats.some hAttempts absent w with
    ⟨last, hLast, hRun, -⟩
  have hLook (n : Nat) :=
    run_absent (show absent.run
      (Retry.reached absent delay w n) =
        ((Retry.tried absent delay w n).1,
          (Retry.tried absent delay w n).2) from rfl)
  choose found hOutcome hEvents using hLook
  have hThere (n : Nat) :
      Retry.worthAnother Failure.isCompareFailed
          (Retry.tried absent delay w n).1 =
        stillThere (found n) := by
    rw [hOutcome n]
    exact workload.worthAnother_absence (found n)
  replace hRun :
      (wait.await workload.watched.absent).run w =
        ((Retry.tried absent delay w last).1,
          Retry.finished Failure.isCompareFailed
            policy.attempts delay absent w last) :=
    hRun
  rw [h] at hRun
  cases hRun
  refine ⟨((List.range last).map found ++
    [found last]).map .find, ?_, (List.range last).map found,
    found last, ?_, rfl, ?_, hOutcome last, ?_⟩
  · rw [Retry.finished_system, hEvents last,
      reached_absent_events hEvents]
    simp
  · rw [List.length_map, List.length_range]
    exact Retry.le_of_isLeast_final hAttempts hLast
  · intro looked hLooked
    rcases List.mem_map.mp hLooked with ⟨n, hn, rfl⟩
    -- A check before the last one is not final.
    by_contra hGone
    have hFinal :
        Retry.Final Failure.isCompareFailed policy.attempts
          delay absent w n := by
      right
      left
      rw [hThere n]
      exact Bool.not_eq_true _ ▸ hGone
    have hLess := hLast.2 hFinal
    have hEarlier := List.mem_range.mp hn
    omega
  · intro hStays
    rw [List.length_map, List.length_range]
    exact Retry.exhausted_or_cancelled hAttempts hLast
      ((hThere last).trans hStays)

end Workload

end Redeploy

------------------------------------------------------------
-- Sequences of Events
------------------------------------------------------------

namespace Redeploy

namespace Workload

variable {σ Object : Type}

namespace Event

/- The event of collecting pods of an object, if a deletion
   takes them along. -/
inductive Collection
    (object : Object) :
    Bool → NodePods → List (Event Object) → Prop where
  | skipped :
      Collection object false .empty []
  | asked
      {pods : NodePods} :
      Collection object true pods
        [.podsOf object (.ok pods)]

/- The events of a deletion that looks at most a number of
   times whether the object is gone, and how it ends. -/
inductive Removal
    (workload : Workload σ Object)
    (attempts : Nat)
    (cancelled : Prop)
    (cascade : Bool) :
    List (Event Object) → Except Failure Unit → Prop where
  /- There is nothing to delete, or it cannot be told. -/
  | unfound
      {e : Failure} :
      Removal workload attempts cancelled cascade
        [.find (.error e)] (.error e)
  /- The pods of the object cannot be told. -/
  | uncollected
      {object : Object}
      {e : Failure}
      (hCascade : cascade = true) :
      Removal workload attempts cancelled cascade
        [.find (.ok object), .podsOf object (.error e)]
        (.error e)
  /- The object stays. -/
  | unremoved
      {object : Object}
      {pods : NodePods}
      {collection : List (Event Object)}
      {e : Failure}
      (hPods : Collection object cascade pods collection) :
      Removal workload attempts cancelled cascade
        (.find (.ok object) :: collection ++
          [.remove (some .foreground) (.error e)])
        (.error e)
  /- The object is not seen to go away. -/
  | lingering
      {object : Object}
      {pods : NodePods}
      {collection looks : List (Event Object)}
      {e : Failure}
      (hPods : Collection object cascade pods collection)
      (hWait :
        Looks workload attempts cancelled looks
          (.error e)) :
      Removal workload attempts cancelled cascade
        (.find (.ok object) :: collection ++
          [.remove (some .foreground) (.ok ())] ++ looks)
        (.error e)
  /- The object is gone, and the pods are deleted. -/
  | gone
      {object : Object}
      {pods : NodePods}
      {collection looks deletions : List (Event Object)}
      {outcome : Except Failure Unit}
      (hPods : Collection object cascade pods collection)
      (hWait :
        Looks workload attempts cancelled looks (.ok ()))
      (hDelete :
        Deletions workload.identity.ns pods.values deletions
          outcome) :
      Removal workload attempts cancelled cascade
        (.find (.ok object) :: collection ++
          [.remove (some .foreground) (.ok ())] ++ looks ++
          deletions)
        outcome

variable {workload : Workload σ Object}
variable {attempts : Nat}
variable {cancelled : Prop}
variable {cascade : Bool}
variable {events : List (Event Object)}
variable {outcome : Except Failure Unit}

/- No request is made before the deletions of pods. -/
private theorem Collection.no_request
    {object : Object}
    {pods : NodePods}
    (h : Collection object cascade pods events) :
    ∀ call answer, .request call answer ∉ events := by
  intro call answer
  cases h <;> simp

/-
  A request in a deletion deletes a pod of the set that was
  collected for the object that was found, and a look after
  the object was deleted found nothing before.
-/
theorem Removal.before_request
    (h : Removal workload attempts cancelled cascade events
      outcome)
    {before after : List (Event Object)}
    {call : Call}
    {answer : Except ClientError Unit}
    (hEvents :
      events = before ++ .request call answer :: after) :
    cascade = true ∧
      ∃ object pods, .find (.ok object) ∈ before ∧
        .podsOf object (.ok pods) ∈ before ∧
        (∃ early late e, e.isNotFound = true ∧
          before =
            early ++ .remove (some .foreground) (.ok ()) ::
              late ∧
          .find (.error e) ∈ late) ∧
        ∃ pod ∈ pods.values,
          call =
            .deletePod (pod.keyIn workload.identity.ns) := by
  have hMem : .request call answer ∈ events := by
    simp [hEvents]
  cases h with
  | unfound => simp at hMem
  | uncollected => simp at hMem
  | unremoved hPods =>
      have hNone := hPods.no_request call answer
      simp [hNone] at hMem
  | @lingering _ _ _ looks _ hPods hWait =>
      have hNone := hPods.no_request call answer
      have hLook : .request call answer ∈ looks := by
        simpa [hNone] using hMem
      rcases hWait.eq_find _ hLook with ⟨found, hEq⟩
      cases hEq
  | @gone object pods collection looks deletions _ hPods
      hWait hDelete =>
      have hNot :
          .request call answer ∉
            .find (.ok object) :: collection ++
              [.remove (some .foreground) (.ok ())] ++
              looks := by
        have hNone := hPods.no_request call answer
        intro hFront
        have hLook : .request call answer ∈ looks := by
          simpa [hNone] using hFront
        rcases hWait.eq_find _ hLook with ⟨found, hEq⟩
        cases hEq
      rcases exists_append_of_not_mem hNot hEvents with
        ⟨rest, rfl, hBack⟩
      rcases hDelete.request_mem (.request call answer)
          (by simp [hBack]) with
        ⟨pod, hPod, _, hEq⟩
      cases hEq
      rcases hWait.ends_notFound with
        ⟨earlier, e, hGone, rfl⟩
      cases hPods with
      | skipped => simp [Table.values, Table.empty] at hPod
      | asked =>
          refine ⟨rfl, object, pods, by simp, by simp,
            ⟨[.find (.ok object), .podsOf object (.ok pods)],
              earlier ++ [.find (.error e)] ++ rest, e,
              hGone, ?_, ?_⟩, pod, hPod, rfl⟩
          · simp
          · simp

/- If a deletion succeeds, its last look comes after the
   object was deleted, and found nothing. -/
theorem Removal.last_look
    (h : Removal workload attempts cancelled cascade events
      (.ok ())) :
    ∃ before after e, e.isNotFound = true ∧
      events = before ++ .find (.error e) :: after ∧
      .remove (some .foreground) (.ok ()) ∈ before ∧
      ∀ found, .find found ∉ after := by
  cases h with
  | @gone object _ collection _ deletions _ hPods hWait
      hDelete =>
      rcases hWait.ends_notFound with
        ⟨earlier, e, hGone, rfl⟩
      refine ⟨.find (.ok object) :: collection ++
          [.remove (some .foreground) (.ok ())] ++ earlier,
        deletions, e, hGone, by simp, by simp, ?_⟩
      intro found hFound
      rcases hDelete.request_mem _ hFound with
        ⟨_, _, _, hEq⟩
      cases hEq

end Event

end Workload

end Redeploy

------------------------------------------------------------
-- Deletions
------------------------------------------------------------

namespace Redeploy

namespace Workload

variable {σ Object : Type}
variable {workload : Workload σ Object}
variable {w w' : World (Watched σ (Event Object))}
variable {outcome : Except Failure Unit}

/- A notice leaves no event. -/
private theorem run_after_note
    {α : Type}
    {notice : Notice}
    {next :
      PUnit → Act Failure (Watched σ (Event Object)) α}
    {outcome : Except Failure α}
    (h : (Act.note notice >>= next).run w = (outcome, w')) :
    ∃ w₁, w₁.system = w.system ∧
      (next ⟨⟩).run w₁ = (outcome, w') :=
  ⟨{ w with log := w.log ++ [⟨w.span, notice⟩] }, rfl, h⟩

/- The events of a deletion once its pods were collected. -/
private theorem removal_afterCollection
    {object : Object}
    {pods : NodePods}
    {collection : List (Event Object)}
    {cascade : Bool}
    {wait : RetryPolicy}
    (hPods :
      Event.Collection object cascade pods collection)
    (hStart :
      w.system.events = .find (.ok object) :: collection)
    (h :
      Act.run (do
        .note (.deletingCurrent workload.identity.kind)
        workload.watched.remove (some .foreground)
        wait.await workload.watched.absent
        if pods.isEmpty then pure ()
        else
          .note .deletingPods
          workload.watched.deletePods pods) w =
        (outcome, w')) :
    Event.Removal workload
      (wait.orElse .deleteWait).attempts w'.Cancelled cascade
      w'.system.events outcome := by
  rcases run_after_note h with ⟨w₁, hNoted, h⟩
  rcases Act.run_bind_eq h with
    ⟨e, hRemove, rfl⟩ | ⟨_, w₂, hRemove, h⟩
  · rw [Act.run_watched_events hRemove, hNoted, hStart]
    exact .unremoved hPods
  rcases Act.run_bind_eq h with
    ⟨e, hWait, rfl⟩ | ⟨_, w₃, hWait, h⟩
  · rcases run_await_absent hWait with
      ⟨looks, hEvents, hLooks⟩
    rw [hEvents, Act.run_watched_events hRemove, hNoted,
      hStart]
    exact .lingering hPods hLooks
  rcases run_await_absent hWait with ⟨looks, hEvents, hLooks⟩
  have hFront :
      w₃.system.events =
        .find (.ok object) :: collection ++
          [.remove (some .foreground) (.ok ())] ++ looks := by
    rw [hEvents, Act.run_watched_events hRemove, hNoted,
      hStart]
  split at h
  next hEmpty =>
    have hValues : pods.values = [] := by
      simpa [Table.isEmpty, Table.values] using hEmpty
    have hNone :
        Event.Deletions workload.identity.ns pods.values
          ([] : List (Event Object)) (.ok ()) := by
      rw [hValues]
      exact .done
    cases h
    rw [hFront]
    simpa using Event.Removal.gone hPods hLooks.of_ok hNone
  next =>
    rcases run_after_note h with ⟨w₄, hNoted', h⟩
    have hSweep :
        NodePods.Sweeps (workload.client.watched Object)
          workload.identity.ns pods.values w₄.situation
          outcome w'.situation :=
      NodePods.leads_delete ⟨w₄, w', rfl, h, rfl⟩
    rcases hSweep.deletions with
      ⟨deletions, hDeleted, hDeletions⟩
    have hEnd :
        w'.system.events = w₃.system.events ++ deletions := by
      rw [← hNoted']
      exact hDeleted
    rw [hEnd, hFront]
    exact .gone hPods hLooks.of_ok hDeletions

/- A watched deletion leaves the sequences of events
   listed. -/
theorem run_watched_delete
    {cascade : Bool}
    {wait : RetryPolicy}
    (hStart : w.system.events = [])
    (h :
      (workload.watched.delete cascade wait).run w =
        (outcome, w')) :
    Event.Removal workload
      (wait.orElse .deleteWait).attempts w'.Cancelled cascade
      w'.system.events outcome := by
  unfold delete at h
  rcases run_after_note h with ⟨w₁, hNoted, h⟩
  rcases Act.run_bind_eq h with
    ⟨e, hFind, rfl⟩ | ⟨object, w₂, hFind, h⟩
  · rw [Act.run_watched_events hFind, hNoted, hStart]
    exact .unfound
  have hFound :
      w₂.system.events = [.find (.ok object)] := by
    rw [Act.run_watched_events hFind, hNoted, hStart]
    rfl
  cases cascade with
  | false =>
      rcases run_after_note h with ⟨w₃, hNoted', h⟩
      rw [pure_bind] at h
      rw [← hNoted'] at hFound
      exact removal_afterCollection .skipped hFound h
  | true =>
      rcases Act.run_bind_eq h with
        ⟨e, hPods, rfl⟩ | ⟨pods, w₃, hPods, h⟩
      · rw [Act.run_watched_events hPods, hFound]
        exact .uncollected rfl
      · have hCollected :
            w₃.system.events =
              [.find (.ok object),
                .podsOf object (.ok pods)] := by
          rw [Act.run_watched_events hPods, hFound]
          rfl
        exact removal_afterCollection .asked hCollected h

/-
  A deletion, of any workload and however it is cancelled,
  leaves the events of one of the sequences listed.  Requests
  are made only to delete pods, and only after a look that
  found nothing once the object was deleted; without such a
  look no deletion succeeds.
-/
theorem delete_removal
    (workload : Workload σ Object)
    (cascade : Bool)
    (wait : RetryPolicy)
    (w : World σ) :
    ∃ events outcome after,
      (workload.delete cascade wait).run w =
        (outcome, after) ∧
      (workload.watched.delete cascade wait).run
          (w.beside []) =
        (outcome, after.beside events) ∧
      Event.Removal workload
        (if wait.attempts = 0 then 60 else wait.attempts)
        after.Cancelled cascade events outcome ∧
      (∀ before rest call answer,
        events = before ++ .request call answer :: rest →
        cascade = true ∧
          ∃ object pods, .find (.ok object) ∈ before ∧
            .podsOf object (.ok pods) ∈ before ∧
            (∃ early late e, e.isNotFound = true ∧
              before =
                early ++
                  .remove (some .foreground) (.ok ()) ::
                    late ∧
              .find (.error e) ∈ late) ∧
            ∃ pod ∈ pods.values,
              call =
                .deletePod
                  (pod.keyIn workload.identity.ns)) ∧
      (outcome = .ok () →
        ∃ before rest e, e.isNotFound = true ∧
          events = before ++ .find (.error e) :: rest ∧
          .remove (some .foreground) (.ok ()) ∈ before ∧
          ∀ found, .find found ∉ rest) := by
  let act := workload.watched.delete cascade wait
  have hHistory :
      Event.Removal workload
        (wait.orElse .deleteWait).attempts
        (act.run (w.beside [])).2.Cancelled cascade
        (act.run (w.beside [])).2.system.events
        (act.run (w.beside [])).1 :=
    run_watched_delete rfl rfl
  refine ⟨(act.run (w.beside [])).2.system.events,
    (act.run (w.beside [])).1,
    (act.run (w.beside [])).2.unwatched,
    erases_delete workload cascade wait (w.beside []), rfl,
    hHistory, ?_, ?_⟩
  · intro before rest call answer hEvents
    exact hHistory.before_request hEvents
  · intro hOk
    rw [hOk] at hHistory
    exact hHistory.last_look

end Workload

/- A workload whose object is not settled yet at the second
   look, and gone at the third. -/
def Script.unsettled : Script where
  outcomes
    | .find =>
        .ofList
          [.ok (), .error (.compareFailed "not settled"),
            .error (.notFound "gone")]
    | _ => .ofList []
  pods := .empty

namespace Workload

/- Whether the object is looked at once more after a look
   that says "not yet". -/
def Event.looksOn : List (Event Nat) → Bool
  | [_, .remove (some .foreground) (.ok ()),
      .find (.error (.compareFailed _)), _] => true
  | _ => false

/- Not every failure of a look ends a wait: one that says
   "not yet" is waited on like the object itself. -/
theorem delete_waits_on_compareFailed :
    ¬ ∀ (workload : Workload (Rehearsal Cluster) Nat)
        (cascade : Bool)
        (wait : RetryPolicy)
        (w : World (Rehearsal Cluster))
        (before after : List (Event Nat))
        (e : Failure),
        ((workload.watched.delete cascade wait).run
            (w.beside [])).2.system.events =
          before ++ .find (.error e) :: after →
        .remove (some .foreground) (.ok ()) ∈ before →
        e.isNotFound = false →
        after = [] ∧
          ((workload.watched.delete cascade wait).run
            (w.beside [])).1 = .error e := by
  intro hEnds
  let workload : Workload (Rehearsal Cluster) Nat :=
    Script.unsettled.workload Cluster.client default none
  let w : World (Rehearsal Cluster) :=
    { system := { system := {} } }
  -- The first of two looks after the deletion is the one
  -- that says "not yet".
  have hShape :
      Event.looksOn
        ((workload.watched.delete false .deleteWait).run
          (w.beside [])).2.system.events = true := by
    decide +kernel
  unfold Event.looksOn at hShape
  split at hShape
  next hEvents =>
    have hLast :=
      hEnds workload false .deleteWait w [_, _] [_] _ hEvents
        (by simp) rfl
    cases hLast.1
  next => cases hShape

end Workload

end Redeploy
