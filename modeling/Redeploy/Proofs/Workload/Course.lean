import Redeploy.Proofs.Retry.Tries
import Redeploy.Workload

/-
  How replacements and deletions of a workload go.

  Key definitions include:
    * `Pod.Stays`
    * `NodePods.Sweeps`
    * `Workload.Upserts`
    * `Workload.Keeps`
    * `Workload.Deletes`

  Main results:
    * `Workload.leads_upsert`, `Workload.leads_delete`
    * `Workload.Upserts.preserves`

  Each of the three relations lists the ways in which an
  operation can go, one constructor for each place where it
  can end.  The premises say which capabilities were used,
  in which order, and where each of them led.
-/

------------------------------------------------------------
-- Collecting and Deleting Pods
------------------------------------------------------------

namespace Redeploy

/- The key under which a client of a namespace deletes a
   pod. -/
def Pod.keyIn
    (ns : String)
    (pod : Pod) : ObjectKey where
  ns := pod.metadata.ns.getD ns
  name := pod.metadata.nameText

/- What the answer to a deletion amounts to: a pod that is
   gone already counts as deleted. -/
def Pod.deletion : Except ClientError Unit →
    Except Failure Unit
  | .ok () => .ok ()
  | .error e =>
      if (Failure.ofClient "" e).isNotFound then .ok ()
      else .error (Failure.ofClient "" e)

namespace Pod

/- Whether a pod is still there for all that was answered to
   its deletion. -/
def Stays
    (answer : Except ClientError Unit) : Prop :=
  ∃ e, answer = .error e ∧
    (Failure.ofClient "" e).isNotFound = false

variable {answer : Except ClientError Unit}

theorem deletion_eq_ok_iff :
    deletion answer = .ok () ↔ ¬ Stays answer := by
  cases answer with
  | ok => simp [deletion, Stays]
  | error e => simp [deletion, Stays]

theorem deletion_eq_error_iff
    {failure : Failure} :
    deletion answer = .error failure ↔
      Stays answer ∧
        answer.mapError (Failure.ofClient "") =
          .error failure := by
  cases answer with
  | ok => simp [deletion, Stays]
  | error e =>
      by_cases hGone :
          (Failure.ofClient "" e).isNotFound = true
      · have hNot : ¬ Stays (.error e) := by
          rintro ⟨_, hError, hReal⟩
          cases hError
          rw [hGone] at hReal
          cases hReal
        rw [deletion, if_pos hGone]
        simp [hNot]
      · have hStays : Stays (.error e) :=
          ⟨e, rfl, Bool.not_eq_true _ ▸ hGone⟩
        rw [deletion, if_neg hGone]
        exact (and_iff_right hStays).symm

end Pod

variable {σ : Type}
variable {s s' : Situation σ}

theorem Client.leads_request
    {α : Type}
    {act : Act ClientError σ α}
    {outcome : Except Failure α}
    (h : (Client.request act).Leads s outcome s') :
    ∃ answer, act.Leads s answer s' ∧
      outcome = answer.mapError (Failure.ofClient "") :=
  h.mapError

/- How the pods of an owner are collected. -/
theorem NodePods.leads_collect
    {client : Client σ}
    {ns : String}
    {matchLabels : Option Labels}
    {span : Option Span}
    {isOwner : OwnerReference → Bool}
    {outcome : Except Failure NodePods}
    (h : (collect client ns matchLabels span isOwner).Leads s
      outcome s') :
    ∃ answer,
      (client.listPods ns
        ((matchLabels.map Labels.selector).getD "")).Leads s
          answer s' ∧
      outcome =
        (answer.mapError (Failure.ofClient "")).map
          (ofOwned isOwner) := by
  have hNotices :
      ∀ (pods : List Pod) t outcome t',
        ((pods.filterMap (·.notice? isOwner)).forM
            (Act.noteIn span) >>=
          fun _ =>
            (pure (ofOwned isOwner pods) :
              Act Failure σ NodePods)).Leads t outcome t' →
        outcome = .ok (ofOwned isOwner pods) ∧ t' = t :=
    fun _ _ _ _ hDone => hDone.after_notes.pure
  rcases Act.Leads.bind_of_pure hNotices h with
    ⟨inner, hList, rfl⟩
  rcases Client.leads_request hList with ⟨answer, hGet, rfl⟩
  exact ⟨answer, hGet, rfl⟩

theorem Pod.leads_delete
    {client : Client σ}
    {ns : String}
    {span : Option Span}
    {pod : Pod}
    {outcome : Except Failure Unit}
    (h : (Pod.delete client ns span pod).Leads s
      outcome s') :
    ∃ answer,
      (client.deletePod (pod.keyIn ns)).Leads s answer s' ∧
        outcome = Pod.deletion answer := by
  unfold Pod.delete at h
  rcases h.after_noteIn.attempt_bind with
    ⟨tried, s₁, hRequest, h⟩
  rcases Client.leads_request hRequest with
    ⟨answer, hAnswer, rfl⟩
  cases answer with
  | ok =>
      rcases Act.Leads.pure h with ⟨rfl, rfl⟩
      exact ⟨.ok (), hAnswer, rfl⟩
  | error e =>
      refine ⟨.error e, ?_⟩
      simp only [Pod.deletion]
      change (if (Failure.ofClient "" e).isNotFound then _
        else _ : Act _ _ _).Leads _ _ _ at h
      split at h
      next hGone =>
        rcases Act.Leads.noteIn h with ⟨rfl, rfl⟩
        exact ⟨hAnswer, (if_pos hGone).symm⟩
      next hReal =>
        rcases Act.Leads.fail h with ⟨rfl, rfl⟩
        exact ⟨hAnswer, (if_neg hReal).symm⟩

namespace NodePods

/- Pods deleted one after the other, up to the first that
   cannot be. -/
inductive Sweeps
    (client : Client σ)
    (ns : String) :
    List Pod → Situation σ → Except Failure Unit →
      Situation σ → Prop where
  | done
      {s : Situation σ} :
      Sweeps client ns [] s (.ok ()) s
  | next
      {pod : Pod}
      {pods : List Pod}
      {s s₁ s' : Situation σ}
      {answer : Except ClientError Unit}
      {outcome : Except Failure Unit}
      (hPod :
        (client.deletePod (pod.keyIn ns)).Leads s answer s₁)
      (hGone : Pod.deletion answer = .ok ())
      (hRest : Sweeps client ns pods s₁ outcome s') :
      Sweeps client ns (pod :: pods) s outcome s'
  | stop
      {pod : Pod}
      {pods : List Pod}
      {s s' : Situation σ}
      {answer : Except ClientError Unit}
      {e : Failure}
      (hPod :
        (client.deletePod (pod.keyIn ns)).Leads s answer s')
      (hStays : Pod.deletion answer = .error e) :
      Sweeps client ns (pod :: pods) s (.error e) s'

theorem leads_delete
    {client : Client σ}
    {ns : String}
    {span : Option Span}
    {pods : NodePods}
    {outcome : Except Failure Unit}
    (h : (pods.delete client ns span).Leads s outcome s') :
    Sweeps client ns pods.values s outcome s' := by
  unfold NodePods.delete at h
  generalize pods.values = values at h
  induction values generalizing s with
  | nil =>
      rcases Act.Leads.pure h with ⟨rfl, rfl⟩
      exact .done
  | cons pod rest ih =>
      rcases Act.Leads.bind h with
        ⟨e, hPod, rfl⟩ | ⟨_, s₁, hPod, hRest⟩
      · rcases Pod.leads_delete hPod with
          ⟨answer, hAnswer, hStays⟩
        exact .stop hAnswer hStays.symm
      · rcases Pod.leads_delete hPod with
          ⟨answer, hAnswer, hGone⟩
        exact .next hAnswer hGone.symm (ih hRest)

/- What the deletion of each pod keeps up holds at the
   end. -/
theorem Sweeps.preserves
    {Holds : Situation σ → Prop}
    {client : Client σ}
    {ns : String}
    {pods : List Pod}
    {outcome : Except Failure Unit}
    (hKeeps :
      ∀ pod ∈ pods, ∀ s answer s', Holds s →
        (client.deletePod (pod.keyIn ns)).Leads s answer
          s' →
        Holds s')
    (hStart : Holds s)
    (h : Sweeps client ns pods s outcome s') :
    Holds s' := by
  induction h with
  | done => exact hStart
  | next hPod _ _ ih =>
      rcases List.forall_mem_cons.mp hKeeps with
        ⟨hFirst, hOthers⟩
      exact ih hOthers (hFirst _ _ _ hStart hPod)
  | stop hPod _ =>
      exact hKeeps _ (List.mem_cons_self ..) _ _ _ hStart hPod

end NodePods

end Redeploy

------------------------------------------------------------
-- Looking for the Object
------------------------------------------------------------

namespace Redeploy

namespace Workload

variable {σ Object : Type}
variable {workload : Workload σ Object}
variable {s s' : Situation σ}

theorem leads_current?
    {outcome : Except Failure (Option Object)}
    (h : workload.current?.Leads s outcome s') :
    (∃ object, workload.find.Leads s (.ok object) s' ∧
      outcome = .ok (some object)) ∨
    (∃ e, workload.find.Leads s (.error e) s' ∧
      e.isNotFound = true ∧ outcome = .ok none) ∨
    (∃ e, workload.find.Leads s (.error e) s' ∧
      e.isNotFound = false ∧ outcome = .error e) := by
  unfold current? at h
  rcases h.attempt_bind with ⟨tried, s₁, hFind, h⟩
  cases tried with
  | ok object =>
      rcases Act.Leads.pure h with ⟨rfl, rfl⟩
      exact .inl ⟨object, hFind, rfl⟩
  | error e =>
      dsimp only at h
      split at h
      next hAbsent =>
        rcases Act.Leads.pure h with ⟨rfl, rfl⟩
        exact .inr (.inl ⟨e, hFind, hAbsent, rfl⟩)
      next hReal =>
        rcases Act.Leads.fail h with ⟨rfl, rfl⟩
        exact .inr (.inr
          ⟨e, hFind, Bool.not_eq_true _ ▸ hReal, rfl⟩)

/- What a look at a workload means to one who waits for its
   absence. -/
def absence
    (workload : Workload σ Object) :
    Except Failure Object → Except Failure Unit
  | .ok _ =>
      .error (.compareFailed
        (workload.identity.kind ++ " " ++
          workload.identity.path ++ " is still present"))
  | .error e => if e.isNotFound then .ok () else .error e

theorem absence_of_isNotFound
    {e : Failure}
    (hGone : e.isNotFound = true) :
    workload.absence (.error e) = .ok () :=
  if_pos hGone

theorem absence_of_not_isNotFound
    {e : Failure}
    (hReal : e.isNotFound = false) :
    workload.absence (.error e) = .error e :=
  if_neg (Bool.not_eq_true _ ▸ hReal)

theorem leads_absent
    {outcome : Except Failure Unit}
    (h : workload.absent.Leads s outcome s') :
    ∃ found, workload.find.Leads s found s' ∧
      outcome = workload.absence found := by
  unfold absent at h
  rcases h.bind with ⟨e, hSeen, rfl⟩ | ⟨seen, s₁, hSeen, h⟩
  · rcases leads_current? hSeen with
      ⟨_, _, hOk⟩ | ⟨_, _, _, hOk⟩ | ⟨_, hFind, hReal, hError⟩
    · cases hOk
    · cases hOk
    · cases hError
      exact ⟨_, hFind, (absence_of_not_isNotFound hReal).symm⟩
  · rcases leads_current? hSeen with
      ⟨_, hFind, hOk⟩ | ⟨e, hFind, hAbsent, hOk⟩ |
        ⟨_, _, _, hError⟩
    · cases hOk
      rcases Act.Leads.fail h with ⟨rfl, rfl⟩
      exact ⟨_, hFind, rfl⟩
    · cases hOk
      rcases Act.Leads.pure h with ⟨rfl, rfl⟩
      exact ⟨.error e, hFind,
        (absence_of_isNotFound hAbsent).symm⟩
    · cases hError

end Workload

end Redeploy

------------------------------------------------------------
-- Replacement
------------------------------------------------------------

namespace Redeploy

/- How an object is created by a policy. -/
theorem BackoffPolicy.leads_createWith
    {σ : Type}
    {policy : BackoffPolicy}
    {create : Act Failure σ Unit}
    {s s' : Situation σ}
    {outcome : Except Failure Unit}
    (h : (policy.createWith create).Leads s outcome s') :
    Retry.Tries (fun _ => true) create
      (policy.orElse .create).attempts s outcome s' :=
  Act.Leads.tries h

namespace Workload

variable {σ Object : Type}

/- How a replacement goes that makes at most a number of
   attempts to create. -/
inductive Upserts
    (workload : Workload σ Object)
    (attempts : Nat)
    (s : Situation σ) :
    Except Failure Unit → Situation σ → Prop where
  /- What exists cannot be told. -/
  | unreadable
      {s' : Situation σ}
      {e : Failure}
      (hFind : workload.find.Leads s (.error e) s')
      (hReal : e.isNotFound = false) :
      Upserts workload attempts s (.error e) s'
  /- Nothing is there to be replaced. -/
  | fresh
      {s₁ s' : Situation σ}
      {e : Failure}
      {outcome : Except Failure Unit}
      (hFind : workload.find.Leads s (.error e) s₁)
      (hAbsent : e.isNotFound = true)
      (hCreate :
        Retry.Tries (fun _ => true) workload.create attempts
          s₁ outcome s') :
      Upserts workload attempts s outcome s'
  /- The pods of the old object cannot be told. -/
  | uncollected
      {object : Object}
      {s₁ s' : Situation σ}
      {e : Failure}
      (hFind : workload.find.Leads s (.ok object) s₁)
      (hPods :
        (workload.podsOf object).Leads s₁ (.error e) s') :
      Upserts workload attempts s (.error e) s'
  /- The old object stays. -/
  | unremoved
      {object : Object}
      {pods : NodePods}
      {s₁ s₂ s' : Situation σ}
      {e : Failure}
      (hFind : workload.find.Leads s (.ok object) s₁)
      (hPods :
        (workload.podsOf object).Leads s₁ (.ok pods) s₂)
      (hRemove :
        (workload.remove none).Leads s₂ (.error e) s') :
      Upserts workload attempts s (.error e) s'
  /- No new object comes in place of the old one. -/
  | uncreated
      {object : Object}
      {pods : NodePods}
      {s₁ s₂ s₃ s' : Situation σ}
      {e : Failure}
      (hFind : workload.find.Leads s (.ok object) s₁)
      (hPods :
        (workload.podsOf object).Leads s₁ (.ok pods) s₂)
      (hRemove :
        (workload.remove none).Leads s₂ (.ok ()) s₃)
      (hCreate :
        Retry.Tries (fun _ => true) workload.create attempts
          s₃ (.error e) s') :
      Upserts workload attempts s (.error e) s'
  /- The new object is there, and the pods are deleted. -/
  | replaced
      {object : Object}
      {pods : NodePods}
      {s₁ s₂ s₃ s₄ s' : Situation σ}
      {outcome : Except Failure Unit}
      (hFind : workload.find.Leads s (.ok object) s₁)
      (hPods :
        (workload.podsOf object).Leads s₁ (.ok pods) s₂)
      (hRemove :
        (workload.remove none).Leads s₂ (.ok ()) s₃)
      (hCreate :
        Retry.Tries (fun _ => true) workload.create attempts
          s₃ (.ok ()) s₄)
      (hSweep :
        NodePods.Sweeps workload.client workload.identity.ns
          pods.values s₄ outcome s') :
      Upserts workload attempts s outcome s'

/- How the old object is cleared away. -/
theorem leads_clear
    {workload : Workload σ Object}
    {object : Object}
    {s s' : Situation σ}
    {outcome : Except Failure NodePods}
    (h : (workload.clear object).Leads s outcome s') :
    (∃ e, (workload.podsOf object).Leads s (.error e) s' ∧
      outcome = .error e) ∨
    (∃ pods s₁ e,
      (workload.podsOf object).Leads s (.ok pods) s₁ ∧
      (workload.remove none).Leads s₁ (.error e) s' ∧
      outcome = .error e) ∨
    (∃ pods s₁,
      (workload.podsOf object).Leads s (.ok pods) s₁ ∧
      (workload.remove none).Leads s₁ (.ok ()) s' ∧
      outcome = .ok pods) := by
  unfold clear at h
  rcases h.bind with ⟨e, hPods, rfl⟩ | ⟨pods, s₁, hPods, h⟩
  · exact .inl ⟨e, hPods, rfl⟩
  rcases h.after_note.bind with
    ⟨e, hRemove, rfl⟩ | ⟨_, s₂, hRemove, h⟩
  · exact .inr (.inl ⟨pods, s₁, e, hPods, hRemove, rfl⟩)
  · rcases Act.Leads.pure h with ⟨rfl, rfl⟩
    exact .inr (.inr ⟨pods, s₁, hPods, hRemove, rfl⟩)

/- Every replacement goes in one of the ways listed. -/
theorem leads_upsert
    {workload : Workload σ Object}
    {backoff : BackoffPolicy}
    {s s' : Situation σ}
    {outcome : Except Failure Unit}
    (h : (workload.upsert backoff).Leads s outcome s') :
    workload.Upserts (backoff.orElse .create).attempts s
      outcome s' := by
  unfold upsert at h
  rcases h.after_note.bind with
    ⟨e, hSeen, rfl⟩ | ⟨seen, s₁, hSeen, h⟩
  · rcases leads_current? hSeen with
      ⟨_, _, hOk⟩ | ⟨_, _, _, hOk⟩ | ⟨_, hFind, hReal, hError⟩
    · cases hOk
    · cases hOk
    · cases hError
      exact .unreadable hFind hReal
  rcases leads_current? hSeen with
    ⟨object, hFind, hOk⟩ | ⟨e, hFind, hAbsent, hOk⟩ |
      ⟨_, _, _, hError⟩
  · cases hOk
    dsimp only at h
    rw [bind_map_left] at h
    rcases h.bind with ⟨e, hClear, rfl⟩ | ⟨pods, s₂, hClear, h⟩
    · rcases leads_clear hClear with
        ⟨_, hPods, hError⟩ | ⟨_, _, _, hPods, hRemove, hError⟩ |
          ⟨_, _, _, _, hOk⟩
      · cases hError
        exact .uncollected hFind hPods
      · cases hError
        exact .unremoved hFind hPods hRemove
      · cases hOk
    rcases leads_clear hClear with
      ⟨_, _, hError⟩ | ⟨_, _, _, _, _, hError⟩ |
        ⟨_, s₃, hPods, hRemove, hOk⟩
    · cases hError
    · cases hError
    cases hOk
    rcases h.after_note.bind with
      ⟨e, hCreate, rfl⟩ | ⟨_, s₄, hCreate, h⟩
    · exact .uncreated hFind hPods hRemove
        (BackoffPolicy.leads_createWith hCreate)
    · exact .replaced hFind hPods hRemove
        (BackoffPolicy.leads_createWith hCreate)
        (NodePods.leads_delete h.after_note.after_note)
  · cases hOk
    dsimp only at h
    rw [pure_bind] at h
    refine .fresh hFind hAbsent ?_
    rcases h.after_note.bind with
      ⟨e, hCreate, rfl⟩ | ⟨_, s₂, hCreate, h⟩
    · exact BackoffPolicy.leads_createWith hCreate
    · rcases Act.Leads.pure h.after_note with ⟨rfl, rfl⟩
      exact BackoffPolicy.leads_createWith hCreate
  · cases hError

/- Whether all that a replacement asks for, one capability or
   one request to delete a pod at a time, keeps something
   up. -/
structure Keeps
    (workload : Workload σ Object)
    (Holds : Situation σ → Prop) : Prop where
  find :
    ∀ {s outcome s'}, Holds s →
      workload.find.Leads s outcome s' →
      Holds s'
  podsOf :
    ∀ {object s outcome s'}, Holds s →
      (workload.podsOf object).Leads s outcome s' →
      Holds s'
  remove :
    ∀ {propagation s outcome s'}, Holds s →
      (workload.remove propagation).Leads s outcome s' →
      Holds s'
  create :
    ∀ {s outcome s'}, Holds s →
      workload.create.Leads s outcome s' →
      Holds s'
  deletePod :
    ∀ {key s answer s'}, Holds s →
      (workload.client.deletePod key).Leads s answer s' →
      Holds s'

/- What each part of a replacement keeps up holds at the
   end. -/
theorem Upserts.preserves
    {workload : Workload σ Object}
    {Holds : Situation σ → Prop}
    {attempts : Nat}
    {s s' : Situation σ}
    {outcome : Except Failure Unit}
    (hKeeps : workload.Keeps Holds)
    (hStart : Holds s)
    (h : workload.Upserts attempts s outcome s') :
    Holds s' := by
  have hCreates
      {t t' : Situation σ}
      {created : Except Failure Unit}
      (hBefore : Holds t)
      (hCreate :
        Retry.Tries (fun _ => true) workload.create attempts
          t created t') :
      Holds t' :=
    hCreate.preserves (fun _ _ _ => hKeeps.create) hBefore
  cases h with
  | unreadable hFind => exact hKeeps.find hStart hFind
  | fresh hFind _ hCreate =>
      exact hCreates (hKeeps.find hStart hFind) hCreate
  | uncollected hFind hPods =>
      exact hKeeps.podsOf (hKeeps.find hStart hFind) hPods
  | unremoved hFind hPods hRemove =>
      have hListed :=
        hKeeps.podsOf (hKeeps.find hStart hFind) hPods
      exact hKeeps.remove hListed hRemove
  | uncreated hFind hPods hRemove hCreate =>
      have hListed :=
        hKeeps.podsOf (hKeeps.find hStart hFind) hPods
      exact hCreates (hKeeps.remove hListed hRemove) hCreate
  | replaced hFind hPods hRemove hCreate hSweep =>
      have hListed :=
        hKeeps.podsOf (hKeeps.find hStart hFind) hPods
      have hCreated :=
        hCreates (hKeeps.remove hListed hRemove) hCreate
      exact hSweep.preserves
        (fun _ _ _ _ _ => hKeeps.deletePod) hCreated

/- Where nothing is found, there is nothing to replace. -/
theorem Upserts.of_absent
    {workload : Workload σ Object}
    {attempts : Nat}
    {s s' : Situation σ}
    {outcome : Except Failure Unit}
    (hAbsent :
      ∀ found s₁, workload.find.Leads s found s₁ →
        ∃ e, found = .error e ∧ e.isNotFound = true)
    (h : workload.Upserts attempts s outcome s') :
    ∃ e s₁, workload.find.Leads s (.error e) s₁ ∧
      Retry.Tries (fun _ => true) workload.create attempts
        s₁ outcome s' := by
  cases h with
  | unreadable hFind hReal =>
      rcases hAbsent _ _ hFind with ⟨e, hError, hGone⟩
      cases hError
      rw [hReal] at hGone
      cases hGone
  | fresh hFind _ hCreate => exact ⟨_, _, hFind, hCreate⟩
  | uncollected hFind =>
      rcases hAbsent _ _ hFind with ⟨e, hError, -⟩
      cases hError
  | unremoved hFind =>
      rcases hAbsent _ _ hFind with ⟨e, hError, -⟩
      cases hError
  | uncreated hFind =>
      rcases hAbsent _ _ hFind with ⟨e, hError, -⟩
      cases hError
  | replaced hFind =>
      rcases hAbsent _ _ hFind with ⟨e, hError, -⟩
      cases hError

end Workload

end Redeploy

------------------------------------------------------------
-- Deletion
------------------------------------------------------------

namespace Redeploy

namespace Workload

variable {σ Object : Type}

/- How pods are collected for a deletion, if it takes them
   along. -/
inductive Collects
    (workload : Workload σ Object)
    (object : Object)
    (s : Situation σ) :
    Bool → Except Failure NodePods →
      Situation σ → Prop where
  | skipped :
      Collects workload object s false (.ok .empty) s
  | asked
      {s' : Situation σ}
      {outcome : Except Failure NodePods}
      (hPods :
        (workload.podsOf object).Leads s outcome s') :
      Collects workload object s true outcome s'

/- How a deletion goes that looks at most a number of times
   whether the object is gone. -/
inductive Deletes
    (workload : Workload σ Object)
    (cascade : Bool)
    (attempts : Nat)
    (s : Situation σ) :
    Except Failure Unit → Situation σ → Prop where
  /- There is nothing to delete, or it cannot be told. -/
  | unfound
      {s' : Situation σ}
      {e : Failure}
      (hFind : workload.find.Leads s (.error e) s') :
      Deletes workload cascade attempts s (.error e) s'
  /- The pods of the object cannot be told. -/
  | uncollected
      {object : Object}
      {s₁ s' : Situation σ}
      {e : Failure}
      (hFind : workload.find.Leads s (.ok object) s₁)
      (hPods :
        workload.Collects object s₁ cascade (.error e) s') :
      Deletes workload cascade attempts s (.error e) s'
  /- The object stays. -/
  | unremoved
      {object : Object}
      {pods : NodePods}
      {s₁ s₂ s' : Situation σ}
      {e : Failure}
      (hFind : workload.find.Leads s (.ok object) s₁)
      (hPods :
        workload.Collects object s₁ cascade (.ok pods) s₂)
      (hRemove :
        (workload.remove (some .foreground)).Leads s₂
          (.error e) s') :
      Deletes workload cascade attempts s (.error e) s'
  /- The object is not seen to go away. -/
  | lingering
      {object : Object}
      {pods : NodePods}
      {s₁ s₂ s₃ s' : Situation σ}
      {e : Failure}
      (hFind : workload.find.Leads s (.ok object) s₁)
      (hPods :
        workload.Collects object s₁ cascade (.ok pods) s₂)
      (hRemove :
        (workload.remove (some .foreground)).Leads s₂
          (.ok ()) s₃)
      (hWait :
        Retry.Tries Failure.isCompareFailed workload.absent
          attempts s₃ (.error e) s') :
      Deletes workload cascade attempts s (.error e) s'
  /- The object is gone, and the pods are deleted. -/
  | gone
      {object : Object}
      {pods : NodePods}
      {s₁ s₂ s₃ s₄ s' : Situation σ}
      {outcome : Except Failure Unit}
      (hFind : workload.find.Leads s (.ok object) s₁)
      (hPods :
        workload.Collects object s₁ cascade (.ok pods) s₂)
      (hRemove :
        (workload.remove (some .foreground)).Leads s₂
          (.ok ()) s₃)
      (hWait :
        Retry.Tries Failure.isCompareFailed workload.absent
          attempts s₃ (.ok ()) s₄)
      (hSweep :
        NodePods.Sweeps workload.client workload.identity.ns
          pods.values s₄ outcome s') :
      Deletes workload cascade attempts s outcome s'

/- A deletion after its pods were collected. -/
private theorem leads_afterCollection
    {workload : Workload σ Object}
    {object : Object}
    {pods : NodePods}
    {cascade : Bool}
    {wait : RetryPolicy}
    {s s₁ s₂ s' : Situation σ}
    {outcome : Except Failure Unit}
    (hFind : workload.find.Leads s (.ok object) s₁)
    (hPods :
      workload.Collects object s₁ cascade (.ok pods) s₂)
    (h : Act.Leads (do
      .note (.deletingCurrent workload.identity.kind)
      workload.remove (some .foreground)
      wait.await workload.absent
      if pods.isEmpty then pure ()
      else
        .note .deletingPods
        workload.deletePods pods) s₂ outcome s') :
    workload.Deletes cascade
      (wait.orElse .deleteWait).attempts s outcome s' := by
  rcases h.after_note.bind with
    ⟨e, hRemove, rfl⟩ | ⟨_, s₃, hRemove, h⟩
  · exact .unremoved hFind hPods hRemove
  rcases h.bind with ⟨e, hWait, rfl⟩ | ⟨_, s₄, hWait, h⟩
  · exact .lingering hFind hPods hRemove
      (Act.Leads.tries hWait)
  refine .gone hFind hPods hRemove (Act.Leads.tries hWait) ?_
  split at h
  next hEmpty =>
    rcases Act.Leads.pure h with ⟨rfl, rfl⟩
    have hValues : pods.values = [] := by
      simpa [Table.isEmpty, Table.values] using hEmpty
    rw [hValues]
    exact .done
  next => exact NodePods.leads_delete h.after_note

/- Every deletion goes in one of the ways listed. -/
theorem leads_delete
    {workload : Workload σ Object}
    {cascade : Bool}
    {wait : RetryPolicy}
    {s s' : Situation σ}
    {outcome : Except Failure Unit}
    (h : (workload.delete cascade wait).Leads s
      outcome s') :
    workload.Deletes cascade
      (wait.orElse .deleteWait).attempts s outcome s' := by
  unfold delete at h
  rcases h.after_note.bind with
    ⟨e, hFind, rfl⟩ | ⟨object, s₁, hFind, h⟩
  · exact .unfound hFind
  cases cascade with
  | false =>
      replace h := h.after_note
      rw [pure_bind] at h
      exact leads_afterCollection hFind .skipped h
  | true =>
      rcases Act.Leads.bind h with
        ⟨e, hPods, rfl⟩ | ⟨pods, s₂, hPods, h⟩
      · exact .uncollected hFind (.asked hPods)
      · exact leads_afterCollection hFind (.asked hPods) h

/- Where nothing is found, there is nothing to delete. -/
theorem Deletes.of_missing
    {workload : Workload σ Object}
    {cascade : Bool}
    {attempts : Nat}
    {s s' : Situation σ}
    {outcome : Except Failure Unit}
    (hMissing :
      ∀ found s₁, workload.find.Leads s found s₁ →
        ∃ e, found = .error e)
    (h : workload.Deletes cascade attempts s outcome s') :
    ∃ e, workload.find.Leads s (.error e) s' ∧
      outcome = .error e := by
  cases h with
  | unfound hFind => exact ⟨_, hFind, rfl⟩
  | uncollected hFind =>
      rcases hMissing _ _ hFind with ⟨e, hError⟩
      cases hError
  | unremoved hFind =>
      rcases hMissing _ _ hFind with ⟨e, hError⟩
      cases hError
  | lingering hFind =>
      rcases hMissing _ _ hFind with ⟨e, hError⟩
      cases hError
  | gone hFind =>
      rcases hMissing _ _ hFind with ⟨e, hError⟩
      cases hError

end Workload

end Redeploy
