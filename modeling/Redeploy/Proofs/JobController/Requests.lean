import Redeploy.Proofs.JobController.OnCluster

/-
  The requests of an upsert, one after the other.

  Key definitions include:
    * `Cluster.Move.IsRequest`
    * `Cluster.Requests`
    * `JobController.Requested`

  Main results:
    * `Cluster.Reachable.requests`
    * `Cluster.Unhindered.requests`
    * `Cluster.Requests.deletionLag`
    * `JobController.upserts_requested`

  All that an upsert does to a cluster is to make requests.
  So a cluster that could come about before it could come
  about after it as well, and what is set up stays set up.
-/

------------------------------------------------------------
-- Requests of a Cluster
------------------------------------------------------------

namespace Redeploy

namespace Cluster

/- Whether a move is a request, and no setup. -/
def Move.IsRequest : Move → Prop
  | .getJob _ => True
  | .createJob _ => True
  | .deleteJob _ _ => True
  | .listPods _ _ => True
  | .deletePod _ => True
  | .listNodes _ => True
  | _ => False

/- Whether a cluster is set up as an earlier one was that has
   heard a call since. -/
structure KeepsSetup
    (call : Call)
    (c c' : Cluster) : Prop where
  script : c'.script = (c.heard call).script
  deletionLag : c'.deletionLag = c.deletionLag

variable {c c' c'' : Cluster}

@[simp]
theorem read_deletionLag
    (key : ObjectKey)
    (c : Cluster) :
    (c.read key).deletionLag = c.deletionLag := by
  unfold read
  split <;> rfl

/- A call is answered without any change of the setup if it
   is served without one. -/
theorem keepsSetup_answer
    {α : Type}
    {call : Call}
    {serve : Cluster → Except ClientError α × Cluster}
    (hServe :
      ∀ d, (serve d).2.script = d.script ∧
        (serve d).2.deletionLag = d.deletionLag)
    (c : Cluster) :
    c.KeepsSetup call (Cluster.answer call serve c).2 := by
  have hAnswer :
      Cluster.answer call serve c =
        (_, (Cluster.answer call serve c).2) :=
    rfl
  rcases answer_cases hAnswer with
    ⟨_, _, _, hAfter⟩ | ⟨_, hServed⟩
  · rw [hAfter]
    exact ⟨rfl, rfl⟩
  · rcases hServe (c.heard call) with ⟨hScript, hLag⟩
    rw [hServed] at hScript hLag
    exact ⟨hScript, hLag⟩

/- To read a job is no change of the setup either. -/
private theorem read_setup
    (key : ObjectKey)
    (c : Cluster) :
    (c.read key).script = c.script ∧
      (c.read key).deletionLag = c.deletionLag :=
  ⟨read_script c key, read_deletionLag key c⟩

theorem keepsSetup_request
    {move : Move}
    (hRequest : move.IsRequest)
    (c : Cluster) :
    ∃ call, c.KeepsSetup call (c.move move) := by
  cases move with
  | getJob key =>
      refine ⟨_, keepsSetup_answer ?_ c⟩
      intro d
      dsimp only
      split <;> exact read_setup key d
  | createJob job =>
      refine ⟨_, keepsSetup_answer ?_ c⟩
      intro d
      have hRead :=
        read_setup job.key
          { d with created := d.created ++ [job] }
      dsimp only
      split
      · exact hRead
      split <;> exact hRead
  | deleteJob key propagation =>
      refine ⟨_, keepsSetup_answer ?_ c⟩
      intro d
      split
      · exact ⟨rfl, rfl⟩
      split <;> exact ⟨rfl, rfl⟩
  | listPods ns selector =>
      exact ⟨_, keepsSetup_answer (fun _ => ⟨rfl, rfl⟩) c⟩
  | deletePod key =>
      refine ⟨_, keepsSetup_answer ?_ c⟩
      intro d
      split <;> exact ⟨rfl, rfl⟩
  | listNodes selector =>
      exact ⟨_, keepsSetup_answer (fun _ => ⟨rfl, rfl⟩) c⟩
  | _ => cases hRequest

/- Whether requests have led from one cluster to another. -/
inductive Requests
    (c : Cluster) : Cluster → Prop where
  | refl : Requests c c
  | next
      {c' : Cluster}
      {move : Move}
      (hBefore : Requests c c')
      (hRequest : move.IsRequest) :
      Requests c (c'.move move)

/- What requests lead to can come about. -/
theorem Reachable.requests
    (h : c.Reachable)
    (hRequests : c.Requests c') :
    c'.Reachable := by
  induction hRequests with
  | refl => exact h
  | @next _ move _ _ ih =>
      rcases ih with ⟨uidOf, moves, rfl⟩
      refine ⟨uidOf, moves ++ [move], ?_⟩
      rw [List.foldl_append]
      rfl

theorem Unhindered.requests
    (h : c.Unhindered)
    (hRequests : c.Requests c') :
    c'.Unhindered := by
  induction hRequests with
  | refl => exact h
  | next _ hRequest ih =>
      rcases keepsSetup_request hRequest _ with ⟨call, hKeeps⟩
      exact (ih.heard call).congr hKeeps.script

theorem Requests.deletionLag
    (h : c.Requests c') :
    c'.deletionLag = c.deletionLag := by
  induction h with
  | refl => rfl
  | next _ hRequest ih =>
      rcases keepsSetup_request hRequest _ with ⟨_, hKeeps⟩
      exact hKeeps.deletionLag.trans ih

end Cluster

end Redeploy

------------------------------------------------------------
-- Requests of a Controller
------------------------------------------------------------

namespace Redeploy

namespace JobController

/- Whether requests have led from one situation to another,
   and it is cancelled when it was to be before. -/
structure Requested
    (s s' : Situation Cluster) : Prop where
  cancelledAt : s'.cancelledAt = s.cancelledAt
  requests : s.system.Requests s'.system

variable {job : Job}
variable {settings : Settings}
variable {attempts : Nat}
variable {start s s' : Situation Cluster}

theorem Requested.refl
    (s : Situation Cluster) :
    Requested s s where
  cancelledAt := rfl
  requests := .refl

/- One more request. -/
theorem Requested.next
    {move : Cluster.Move}
    (h : Requested start s)
    (hStep : s.system.move move = s'.system)
    (hRequest : move.IsRequest)
    (hCancelled : s'.cancelledAt = s.cancelledAt) :
    Requested start s' where
  cancelledAt := hCancelled.trans h.cancelledAt
  requests := hStep ▸ h.requests.next hRequest

theorem Requested.find
    {outcome : Except Failure Job}
    (h : Requested start s)
    (hFind :
      (onCluster job settings).workload.find.Leads s
        outcome s') :
    Requested start s' := by
  rcases leads_find hFind with ⟨_, hStep, hCancelled, _⟩
  have hMove :
      s.system.move (.getJob job.target) = s'.system :=
    congrArg Prod.snd hStep
  exact h.next hMove trivial hCancelled

theorem Requested.podsOf
    {current : Job}
    {outcome : Except Failure NodePods}
    (h : Requested start s)
    (hPods :
      ((onCluster job settings).workload.podsOf
        current).Leads s outcome s') :
    Requested start s' := by
  rcases leads_podsOf hPods with ⟨_, hStep, hCancelled, _⟩
  have hMove :
      s.system.move
        (.listPods job.target.ns current.podSelector) =
          s'.system :=
    congrArg Prod.snd hStep
  exact h.next hMove trivial hCancelled

theorem Requested.remove
    {propagation : Option Propagation}
    {outcome : Except Failure Unit}
    (h : Requested start s)
    (hRemove :
      ((onCluster job settings).workload.remove
        propagation).Leads s outcome s') :
    Requested start s' := by
  rcases leads_remove hRemove with ⟨_, hStep, hCancelled, _⟩
  have hMove :
      s.system.move (.deleteJob job.target propagation) =
        s'.system :=
    congrArg Prod.snd hStep
  exact h.next hMove trivial hCancelled

theorem Requested.create
    {outcome : Except Failure Unit}
    (h : Requested start s)
    (hCreate :
      (onCluster job settings).workload.create.Leads s
        outcome s') :
    Requested start s' := by
  rcases leads_create hCreate with ⟨_, hStep, hCancelled, _⟩
  have hMove :
      s.system.move (.createJob (submission job)) =
        s'.system :=
    congrArg Prod.snd hStep
  exact h.next hMove trivial hCancelled

theorem Requested.deletePod
    {key : ObjectKey}
    {answer : Except ClientError Unit}
    (h : Requested start s)
    (hDelete :
      (Cluster.client.deletePod key).Leads s answer s') :
    Requested start s' := by
  rcases Cluster.leads_deletePod hDelete with
    ⟨hStep, hCancelled⟩
  have hMove :
      s.system.move (.deletePod key) = s'.system :=
    congrArg Prod.snd hStep
  exact h.next hMove trivial hCancelled

/- An upsert consists of requests. -/
theorem upserts_requested
    {outcome : Except Failure Unit}
    (h :
      (onCluster job settings).workload.Upserts attempts s
        outcome s') :
    Requested s s' :=
  h.preserves
    { find := Requested.find
      podsOf := Requested.podsOf
      remove := Requested.remove
      create := Requested.create
      deletePod := Requested.deletePod }
    (Requested.refl s)

end JobController

end Redeploy
