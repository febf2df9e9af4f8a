import Redeploy.Proofs.Workload.Course
import Redeploy.Proofs.Workload.Erasure

/-
  Workloads whose capabilities leave events.

  Key definitions include:
    * `Workload.Event`
    * `Workload.watched`
    * `Event.Creations`
    * `Event.Deletions`

  Main results:
    * `Workload.erases_upsert`
    * `Retry.Tries.creations`
    * `NodePods.Sweeps.deletions`

  Every use of a capability and every request of the client
  is an event, with its arguments and with how it ended.
-/

------------------------------------------------------------
-- Events
------------------------------------------------------------

namespace Redeploy

namespace Workload

/- A use of a workload's capability, and how it ended. -/
inductive Event (Object : Type) where
  | find (outcome : Except Failure Object)
  | podsOf
      (object : Object)
      (outcome : Except Failure NodePods)
  | remove
      (propagation : Option Propagation)
      (outcome : Except Failure Unit)
  | create (outcome : Except Failure Unit)
  | status (outcome : Except Failure Unit)
  /- A request that the workload's client makes. -/
  | request
      (call : Call)
      (answer : Except ClientError Unit)

/- The event of a request, whatever it is answered with. -/
def Event.ofAnswer
    {Object α : Type}
    (call : Call)
    (answer : Except ClientError α) : Event Object :=
  .request call (answer.map fun _ => ())

end Workload

open Workload (Event)

variable {σ Object : Type}

/- A client whose requests leave events. -/
def Client.watched
    (Object : Type)
    (client : Client σ) :
    Client (Watched σ (Event Object)) where
  getJob key :=
    (client.getJob key).watched (.ofAnswer (.getJob key))
  createJob job :=
    (client.createJob job).watched
      (.ofAnswer (.createJob job.key))
  deleteJob key propagation :=
    (client.deleteJob key propagation).watched
      (.ofAnswer (.deleteJob key propagation))
  listPods ns selector :=
    (client.listPods ns selector).watched
      (.ofAnswer (.listPods ns selector))
  deletePod key :=
    (client.deletePod key).watched
      (.ofAnswer (.deletePod key))
  listNodes selector :=
    (client.listNodes selector).watched
      (.ofAnswer (.listNodes selector))

/- A workload whose capabilities leave events. -/
def Workload.watched
    (workload : Workload σ Object) :
    Workload (Watched σ (Event Object)) Object where
  identity := workload.identity
  span := workload.span
  client := workload.client.watched Object
  find := workload.find.watched .find
  podsOf object :=
    (workload.podsOf object).watched (.podsOf object)
  remove propagation :=
    (workload.remove propagation).watched
      (.remove propagation)
  create := workload.create.watched .create
  status := workload.status.watched .status

end Redeploy

------------------------------------------------------------
-- Erasure
------------------------------------------------------------

namespace Redeploy

open Act (Erases)

variable {σ Object : Type}

namespace Workload

/- A workload whose capabilities leave events is the workload
   but for those. -/
theorem watched_erasesTo
    (workload : Workload σ Object) :
    workload.watched.ErasesTo workload where
  identity := rfl
  span := rfl
  find := .watched _ _
  podsOf _ := .watched _ _
  remove _ := .watched _ _
  create := .watched _ _
  deletePod _ := .watched _ _

/- A replacement of a watched workload is a replacement of
   the workload. -/
theorem erases_upsert
    (workload : Workload σ Object)
    (backoff : BackoffPolicy) :
    (workload.watched.upsert backoff).Erases
      (workload.upsert backoff) :=
  workload.watched_erasesTo.upsert backoff

/- And a deletion is a deletion. -/
theorem erases_delete
    (workload : Workload σ Object)
    (cascade : Bool)
    (wait : RetryPolicy) :
    (workload.watched.delete cascade wait).Erases
      (workload.delete cascade wait) :=
  workload.watched_erasesTo.delete cascade wait

end Workload

end Redeploy

------------------------------------------------------------
-- Creations
------------------------------------------------------------

namespace Redeploy

open Workload (Event)

variable {σ Object : Type}

namespace Workload

/-
  Creations one after the other, all of which failed but
  perhaps the last.  There are at most as many as attempts,
  and fewer only after a success or where all is cancelled.
-/
def Event.Creations
    (attempts : Nat)
    (cancelled : Prop)
    (events : List (Event Object))
    (outcome : Except Failure Unit) : Prop :=
  ∃ failures : List Failure,
    failures.length < attempts ∧
      events =
        failures.map (fun e => .create (.error e)) ++
          [.create outcome] ∧
      (∀ e, outcome = .error e →
        failures.length + 1 = attempts ∨ cancelled)

end Workload

theorem Retry.Tries.creations
    {plain : Act Failure σ Unit}
    {attempts : Nat}
    {s s' : Situation (Watched σ (Event Object))}
    {outcome : Except Failure Unit}
    (hAttempts : 0 < attempts)
    (h : Retry.Tries (fun _ => true)
      (plain.watched Event.create) attempts s outcome s') :
    ∃ events,
      s'.system.events = s.system.events ++ events ∧
        Event.Creations attempts (s'.cancelledAt ≠ .none)
          events outcome := by
  induction h with
  | none => omega
  | success hCall =>
      refine ⟨_, hCall.watched, [], hAttempts, rfl, ?_⟩
      intro e hError
      cases hError
  | failure hCall hLast =>
      refine ⟨_, hCall.watched, [], hAttempts, rfl, ?_⟩
      intro e hError
      rcases hLast with rfl | hFinal | hCancelled
      · exact .inl rfl
      · cases hFinal
      · exact .inr hCancelled
  | @again _ _ _ _ e _ hCall _ hLeft _ ih =>
      rcases ih hLeft with
        ⟨events, hEvents, failures, hFew, rfl, hLast⟩
      refine ⟨.create (.error e) :: _, ?_,
        e :: failures, ?_, rfl, ?_⟩
      · rw [hEvents, hCall.watched, List.append_assoc]
        rfl
      · simpa using hFew
      · intro e hError
        exact (hLast e hError).imp_left (by simp)

end Redeploy

------------------------------------------------------------
-- Deletions
------------------------------------------------------------

namespace Redeploy

open Workload (Event)

variable {σ Object : Type}

namespace Workload

/- Requests to delete some pods in their order, up to the
   first pod that stays. -/
inductive Event.Deletions
    (ns : String) :
    List Pod → List (Event Object) →
      Except Failure Unit → Prop where
  | done :
      Deletions ns [] [] (.ok ())
  | next
      {pod : Pod}
      {pods : List Pod}
      {answer : Except ClientError Unit}
      {events : List (Event Object)}
      {outcome : Except Failure Unit}
      (hGone : Pod.deletion answer = .ok ())
      (hRest : Deletions ns pods events outcome) :
      Deletions ns (pod :: pods)
        (.request (.deletePod (pod.keyIn ns)) answer ::
          events) outcome
  | stop
      {pod : Pod}
      {pods : List Pod}
      {answer : Except ClientError Unit}
      {e : Failure}
      (hStays : Pod.deletion answer = .error e) :
      Deletions ns (pod :: pods)
        [.request (.deletePod (pod.keyIn ns)) answer]
        (.error e)

/- Deletions are requests for pods of the set. -/
theorem Event.Deletions.request_mem
    {ns : String}
    {pods : List Pod}
    {events : List (Event Object)}
    {outcome : Except Failure Unit}
    (h : Event.Deletions ns pods events outcome) :
    ∀ event ∈ events, ∃ pod ∈ pods, ∃ answer,
      event = .request (.deletePod (pod.keyIn ns)) answer := by
  induction h with
  | done =>
      intro event hEvent
      cases hEvent
  | next _ _ ih =>
      intro event hEvent
      rcases List.mem_cons.mp hEvent with rfl | hRest
      · exact ⟨_, List.mem_cons_self .., _, rfl⟩
      · rcases ih event hRest with ⟨pod, hPod, answer, rfl⟩
        exact ⟨pod, List.mem_cons_of_mem _ hPod, answer, rfl⟩
  | stop =>
      intro event hEvent
      cases List.mem_singleton.mp hEvent
      exact ⟨_, List.mem_cons_self .., _, rfl⟩

/- What stands before an event that is not in the front part
   of a list takes in all of that part. -/
theorem Event.exists_append_of_not_mem
    {α : Type}
    {front back before after : List α}
    {a : α}
    (hNot : a ∉ front)
    (h : front ++ back = before ++ a :: after) :
    ∃ rest, before = front ++ rest ∧
      back = rest ++ a :: after := by
  rcases List.append_eq_append_iff.mp h with
    ⟨rest, hBefore, hBack⟩ | ⟨rest, hFront, hRest⟩
  · exact ⟨rest, hBefore, hBack⟩
  · cases rest with
    | nil =>
        refine ⟨[], ?_, hRest.symm⟩
        simpa using hFront.symm
    | cons b rest =>
        rcases List.cons_eq_cons.mp hRest with ⟨rfl, -⟩
        exact absurd (by simp [hFront]) hNot

end Workload

theorem Client.leads_watched_deletePod
    {client : Client σ}
    {key : ObjectKey}
    {s s' : Situation (Watched σ (Event Object))}
    {answer : Except ClientError Unit}
    (h : ((client.watched Object).deletePod key).Leads s
      answer s') :
    s'.system.events =
      s.system.events ++
        [.request (.deletePod key) answer] := by
  have hEvent :
      (Event.ofAnswer (.deletePod key) answer :
          Event Object) =
        .request (.deletePod key) answer := by
    cases answer <;> rfl
  rw [← hEvent]
  exact Act.Leads.watched h

theorem NodePods.Sweeps.deletions
    {client : Client σ}
    {ns : String}
    {pods : List Pod}
    {s s' : Situation (Watched σ (Event Object))}
    {outcome : Except Failure Unit}
    (h : NodePods.Sweeps (client.watched Object) ns pods s
      outcome s') :
    ∃ events,
      s'.system.events = s.system.events ++ events ∧
        Event.Deletions ns pods events outcome := by
  induction h with
  | done => exact ⟨[], by simp, .done⟩
  | next hPod hGone _ ih =>
      rcases ih with ⟨events, hEvents, hDeletions⟩
      refine ⟨_, ?_, .next hGone hDeletions⟩
      rw [hEvents, Client.leads_watched_deletePod hPod,
        List.append_assoc]
      rfl
  | stop hPod hStays =>
      exact ⟨_, Client.leads_watched_deletePod hPod,
        .stop hStays⟩

end Redeploy
