import Redeploy.JobController
import Redeploy.Proofs.Workload.Course
import Redeploy.Proofs.Workload.Erasure

/-
  Controllers whose requests are recorded.

  Key definitions include:
    * `Answered`
    * `Client.recorded`
    * `JobController.Command`
    * `JobController.recorded`

  Main results:
    * `JobController.erases_perform`
    * `JobController.recorded_find`
    * `JobController.recorded_createJob`
    * `JobController.recorded_create`
    * `JobController.recorded_podsOf`
    * `JobController.recorded_remove`

  A record keeps each request with its answer, in order.  The
  controller does not learn of it: what it does to its
  cluster is what it does without a record.
-/

------------------------------------------------------------
-- Requests and Answers
------------------------------------------------------------

namespace Redeploy

/- A request that was made, with the answer to it. -/
inductive Answered where
  | getJob
      (key : ObjectKey)
      (answer : Except ClientError Job)
  | createJob
      (job : Job)
      (answer : Except ClientError Job)
  | deleteJob
      (key : ObjectKey)
      (propagation : Option Propagation)
      (answer : Except ClientError Unit)
  | listPods
      (ns selector : String)
      (answer : Except ClientError (List Pod))
  | deletePod
      (key : ObjectKey)
      (answer : Except ClientError Unit)
  | listNodes
      (selector : String)
      (answer : Except ClientError (List Node))

/- The request alone. -/
def Answered.call : Answered → Call
  | .getJob key _ => .getJob key
  | .createJob job _ => .createJob job.key
  | .deleteJob key propagation _ =>
      .deleteJob key propagation
  | .listPods ns selector _ => .listPods ns selector
  | .deletePod key _ => .deletePod key
  | .listNodes selector _ => .listNodes selector

/- A client that keeps a record of its requests. -/
def Client.recorded
    {σ : Type}
    (client : Client σ) : Client (Watched σ Answered) where
  getJob key := (client.getJob key).watched (.getJob key)
  createJob job :=
    (client.createJob job).watched (.createJob job)
  deleteJob key propagation :=
    (client.deleteJob key propagation).watched
      (.deleteJob key propagation)
  listPods ns selector :=
    (client.listPods ns selector).watched
      (.listPods ns selector)
  deletePod key :=
    (client.deletePod key).watched (.deletePod key)
  listNodes selector :=
    (client.listNodes selector).watched
      (.listNodes selector)

end Redeploy

------------------------------------------------------------
-- Commands
------------------------------------------------------------

namespace Redeploy

namespace JobController

/- What a controller can be told to do. -/
inductive Command where
  | upsert
  | delete (cascade : Bool)
  | status
  | awaitCompletion
deriving DecidableEq

variable {σ : Type}

/- Do what a command says. -/
def perform
    (c : JobController σ) : Command → Act Failure σ Unit
  | .upsert => c.upsert
  | .delete cascade => c.delete cascade
  | .status => c.status
  | .awaitCompletion => c.awaitCompletion

/- A controller that keeps a record of its requests. -/
def recorded
    (c : JobController σ) :
    JobController (Watched σ Answered) where
  job := c.job
  client := c.client.recorded
  settings := c.settings

end JobController

end Redeploy

------------------------------------------------------------
-- Erasure
------------------------------------------------------------

namespace Redeploy

open Act (Erases)

variable {σ : Type}

theorem NodePods.erases_collect
    {E : Type}
    {client : Client (Watched σ E)}
    {plain : Client σ}
    (hList :
      ∀ ns selector,
        (client.listPods ns selector).Erases
          (plain.listPods ns selector))
    (ns : String)
    (matchLabels : Option Labels)
    (span : Option Span)
    (isOwner : OwnerReference → Bool) :
    (collect client ns matchLabels span isOwner).Erases
      (collect plain ns matchLabels span isOwner) := by
  unfold collect
  refine ((hList _ _).mapError _).bind fun pods => ?_
  exact (Erases.notes span _).bind fun _ => .pure _

namespace JobController

theorem erases_find
    (c : JobController σ) :
    c.recorded.find.Erases c.find := by
  unfold find
  exact (Erases.watched _ _).mapError _

theorem erases_status
    (c : JobController σ) :
    c.recorded.status.Erases c.status := by
  unfold status
  refine c.erases_find.bind fun job => ?_
  split
  · exact .pure ()
  · exact .fail _

theorem erases_create
    (c : JobController σ) :
    c.recorded.create.Erases c.create := by
  unfold create
  rw [seqRight_eq_bind, seqRight_eq_bind]
  refine Erases.bind ?_ fun _ => .pure ()
  exact (Erases.watched _ _).mapError _

/- The workload of a recorded controller is that of the
   controller, but for the record. -/
theorem recorded_erasesTo
    (c : JobController σ) :
    c.recorded.workload.ErasesTo c.workload where
  identity := rfl
  span := rfl
  find := c.erases_find
  podsOf _ :=
    NodePods.erases_collect (fun _ _ => .watched _ _) _ _ _ _
  remove _ := (Erases.watched _ _).mapError _
  create := c.erases_create
  deletePod _ := .watched _ _

/- To keep a record changes nothing in what is done. -/
theorem erases_perform
    (c : JobController σ)
    (command : Command) :
    (c.recorded.perform command).Erases
      (c.perform command) := by
  cases command with
  | upsert => exact (c.recorded_erasesTo.upsert _).within _
  | delete cascade =>
      exact (c.recorded_erasesTo.delete _ _).within _
  | status => exact c.erases_status
  | awaitCompletion =>
      refine (Erases.noteIn _ _).bind fun _ => ?_
      exact (Retry.erases_calls c.erases_status _ _ _).within _

/- A run leaves a record, and is what it is without one. -/
theorem exists_record
    (c : JobController σ)
    (command : Command)
    (w : World σ) :
    ∃ record,
      (c.recorded.perform command).run (w.beside []) =
        (((c.perform command).run w).1,
          ((c.perform command).run w).2.beside record) :=
  (c.erases_perform command).exists_record w

end JobController

end Redeploy

------------------------------------------------------------
-- Recorded Requests
------------------------------------------------------------

namespace Redeploy

variable {σ : Type}
variable {s s' : Situation (Watched σ Answered)}

theorem Client.recorded_deletePod
    {client : Client σ}
    {key : ObjectKey}
    {answer : Except ClientError Unit}
    (h : (client.recorded.deletePod key).Leads s answer s') :
    (client.deletePod key).Leads s.unwatched answer
        s'.unwatched ∧
      s'.system.events =
        s.system.events ++ [.deletePod key answer] :=
  ⟨(Act.Erases.watched _ _).leads h, Act.Leads.watched h⟩

namespace JobController

variable {c : JobController σ}

theorem recorded_find
    {outcome : Except Failure Job}
    (h : c.recorded.workload.find.Leads s outcome s') :
    c.workload.find.Leads s.unwatched outcome s'.unwatched ∧
      ∃ answer,
        s'.system.events =
          s.system.events ++ [.getJob c.key answer] ∧
        outcome = answer.mapError (Failure.ofClient "") := by
  refine ⟨c.recorded_erasesTo.find.leads h, ?_⟩
  rcases Client.leads_request h with ⟨answer, hGet, hOutcome⟩
  exact ⟨answer, Act.Leads.watched hGet, hOutcome⟩

/- A creation is one request, whatever it is answered. -/
theorem recorded_createJob
    {outcome : Except Failure Unit}
    (h : c.recorded.workload.create.Leads s outcome s') :
    ∃ answer,
      (c.client.createJob c.job.forCreate).Leads s.unwatched
        answer s'.unwatched ∧
      s'.system.events =
        s.system.events ++
          [.createJob c.job.forCreate answer] ∧
      outcome =
        (answer.mapError (Failure.ofClient
          ("create job " ++ c.identity.path))).map
            fun _ => () := by
  have hPure :
      ∀ (_ : Job) t outcome t',
        (pure () : Act Failure (Watched σ Answered)
          Unit).Leads t outcome t' →
        outcome = .ok () ∧ t' = t :=
    fun _ _ _ _ hDone => hDone.pure
  rcases Act.Leads.bind_of_pure hPure h with
    ⟨inner, hCreate, rfl⟩
  rcases hCreate.mapError with ⟨answer, hPost, rfl⟩
  exact ⟨answer, (Act.Erases.watched _ _).leads hPost,
    Act.Leads.watched hPost, rfl⟩

theorem recorded_create
    {outcome : Except Failure Unit}
    (h : c.recorded.workload.create.Leads s outcome s') :
    c.workload.create.Leads s.unwatched outcome
        s'.unwatched ∧
      ∃ answer,
        s'.system.events =
          s.system.events ++
            [.createJob c.job.forCreate answer] ∧
        outcome =
          (answer.mapError (Failure.ofClient
            ("create job " ++ c.identity.path))).map
              fun _ => () := by
  rcases recorded_createJob h with
    ⟨answer, -, hEvents, hOutcome⟩
  exact ⟨c.recorded_erasesTo.create.leads h, answer, hEvents,
    hOutcome⟩

theorem recorded_podsOf
    {current : Job}
    {outcome : Except Failure NodePods}
    (h : (c.recorded.workload.podsOf current).Leads s
      outcome s') :
    (c.workload.podsOf current).Leads s.unwatched outcome
        s'.unwatched ∧
      ∃ answer,
        s'.system.events =
          s.system.events ++
            [.listPods c.identity.ns
              ((current.matchLabels.map
                Labels.selector).getD "") answer] := by
  refine ⟨(c.recorded_erasesTo.podsOf current).leads h, ?_⟩
  rcases NodePods.leads_collect h with ⟨answer, hList, -⟩
  exact ⟨answer, Act.Leads.watched hList⟩

theorem recorded_remove
    {propagation : Option Propagation}
    {outcome : Except Failure Unit}
    (h : (c.recorded.workload.remove propagation).Leads s
      outcome s') :
    (c.workload.remove propagation).Leads s.unwatched
        outcome s'.unwatched ∧
      ∃ answer,
        s'.system.events =
          s.system.events ++
            [.deleteJob c.key propagation answer] ∧
        outcome = answer.mapError (Failure.ofClient "") := by
  refine ⟨(c.recorded_erasesTo.remove propagation).leads h,
    ?_⟩
  rcases Client.leads_request h with
    ⟨answer, hDelete, hOutcome⟩
  exact ⟨answer, Act.Leads.watched hDelete, hOutcome⟩

/- To check the status is to look for the job. -/
theorem leads_status
    {s s' : Situation σ}
    {outcome : Except Failure Unit}
    (h : c.status.Leads s outcome s') :
    ∃ found, c.workload.find.Leads s found s' := by
  rcases h.bind with ⟨e, hFind, -⟩ | ⟨job, s₁, hFind, h⟩
  · exact ⟨_, hFind⟩
  · split at h
    · rcases Act.Leads.pure h with ⟨-, rfl⟩
      exact ⟨_, hFind⟩
    · rcases Act.Leads.fail h with ⟨-, rfl⟩
      exact ⟨_, hFind⟩

/- How a completion is awaited. -/
theorem leads_awaitCompletion
    {s s' : Situation σ}
    {outcome : Except Failure Unit}
    (h : c.awaitCompletion.Leads s outcome s') :
    Retry.Tries (fun _ => true) c.status
      (c.settings.status.orElse .status).attempts s
      outcome s' := by
  have hPoll := Act.Leads.after_noteIn h
  exact Act.Leads.tries hPoll.within

/- What a look for the job preserves, all waiting for it to
   complete does. -/
theorem awaitCompletion_preserves
    {Holds : Situation σ → Prop}
    {s s' : Situation σ}
    {outcome : Except Failure Unit}
    (hKeeps :
      ∀ s found s', Holds s →
        c.workload.find.Leads s found s' →
        Holds s')
    (hStart : Holds s)
    (h : c.awaitCompletion.Leads s outcome s') :
    Holds s' := by
  apply (leads_awaitCompletion h).preserves _ hStart
  intro t outcome t' hBefore hStatus
  rcases leads_status hStatus with ⟨found, hFind⟩
  exact hKeeps t found t' hBefore hFind

end JobController

end Redeploy
