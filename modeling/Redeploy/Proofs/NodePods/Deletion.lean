import Redeploy.Proofs.JobController.OnCluster
import Redeploy.Proofs.JobController.Recorded

/-
  How the pods of a set are deleted.

  Key definitions include:
    * `NodePods.deletions`
    * `NodePods.Swept`
    * `Cluster.Loses`

  Main results:
    * `NodePods.Sweeps.swept`
    * `NodePods.Swept.ok_iff`
    * `NodePods.Sweeps.loses`
    * `NodePods.delete_exact`

  Pods are deleted one after the other, in the order of their
  nodes, until one of them can neither be deleted nor is gone
  already.  On a cluster in memory without scripted failures
  that never happens, and to delete the pods again changes
  nothing.
-/

------------------------------------------------------------
-- Requests
------------------------------------------------------------

namespace Redeploy

namespace NodePods

/- The record of requests to delete some pods, each with its
   answer. -/
def deletions
    (ns : String)
    (pods : List Pod)
    (answers : List (Except ClientError Unit)) :
    List Answered :=
  (pods.zip answers).map fun e =>
    .deletePod (e.1.keyIn ns) e.2

/-
  The records of deleting some pods, and the outcomes.  The
  deletion ends with the first pod that stays, and fails with
  what was answered to it.
-/
inductive Swept
    (ns : String)
    (pods : List Pod) :
    List Answered → Except Failure Unit → Prop where
  /- No pod stays. -/
  | cleared
      {answers : List (Except ClientError Unit)}
      (hEach : answers.length = pods.length)
      (hGone : ∀ answer ∈ answers, ¬ Pod.Stays answer) :
      Swept ns pods (deletions ns pods answers) (.ok ())
  /- One does, after others that do not. -/
  | stopped
      {early late : List Pod}
      {pod : Pod}
      {answers : List (Except ClientError Unit)}
      {e : ClientError}
      (hPods : pods = early ++ pod :: late)
      (hEach : answers.length = early.length)
      (hGone : ∀ answer ∈ answers, ¬ Pod.Stays answer)
      (hStays : Pod.Stays (.error e)) :
      Swept ns pods
        (deletions ns early answers ++
          [.deletePod (pod.keyIn ns) (.error e)])
        (.error (Failure.ofClient "" e))

variable {σ : Type}
variable {ns : String}
variable {pods : List Pod}
variable {record : List Answered}
variable {outcome : Except Failure Unit}

/- One pod more that does not stay. -/
private theorem Swept.next
    {pod : Pod}
    {answer : Except ClientError Unit}
    (hGone : ¬ Pod.Stays answer)
    (h : Swept ns pods record outcome) :
    Swept ns (pod :: pods)
      (.deletePod (pod.keyIn ns) answer :: record)
      outcome := by
  cases h with
  | @cleared answers hEach hOthers =>
      have hLengths :
          (answer :: answers).length = (pod :: pods).length :=
        congrArg (· + 1) hEach
      exact .cleared hLengths
        (List.forall_mem_cons.mpr ⟨hGone, hOthers⟩)
  | @stopped early late last answers e hPods hEach hOthers
      hStays =>
      have hSplit :
          pod :: pods = (pod :: early) ++ last :: late :=
        congrArg (pod :: ·) hPods
      have hLengths :
          (answer :: answers).length = (pod :: early).length :=
        congrArg (· + 1) hEach
      exact .stopped hSplit hLengths
        (List.forall_mem_cons.mpr ⟨hGone, hOthers⟩) hStays

/- What is recorded of deletions that go one of the ways in
   which they can go. -/
theorem Sweeps.swept
    {client : Client σ}
    {s s' : Situation (Watched σ Answered)}
    (h : Sweeps client.recorded ns pods s outcome s') :
    ∃ record,
      s'.system.events = s.system.events ++ record ∧
        Swept ns pods record outcome := by
  induction h with
  | done =>
      refine ⟨deletions ns [] [], (List.append_nil _).symm, ?_⟩
      exact .cleared rfl fun _ hNone => by cases hNone
  | next hPod hGone _ ih =>
      rcases ih with ⟨record, hEvents, hSwept⟩
      refine ⟨_, ?_,
        hSwept.next (Pod.deletion_eq_ok_iff.mp hGone)⟩
      rw [hEvents, (Client.recorded_deletePod hPod).2,
        List.append_assoc]
      rfl
  | @stop pod rest _ _ answer _ hPod hStays =>
      rcases Pod.deletion_eq_error_iff.mp hStays with
        ⟨⟨e, rfl, hReal⟩, hFailure⟩
      cases hFailure
      refine ⟨deletions ns [] [] ++
        [.deletePod (pod.keyIn ns) (.error e)], ?_, ?_⟩
      · exact (Client.recorded_deletePod hPod).2
      · exact .stopped rfl rfl
          (fun _ hNone => by cases hNone) ⟨e, rfl, hReal⟩

/- The requests ask for the pods in their order. -/
theorem map_call_deletions
    {answers : List (Except ClientError Unit)}
    (hEach : answers.length = pods.length) :
    (deletions ns pods answers).map Answered.call =
      pods.map fun pod => .deletePod (pod.keyIn ns) := by
  have hPods : (pods.zip answers).map Prod.fst = pods :=
    List.map_fst_zip (Nat.le_of_eq hEach.symm)
  calc
    (deletions ns pods answers).map Answered.call
    _ = ((pods.zip answers).map Prod.fst).map
          fun pod => .deletePod (pod.keyIn ns) := by
      rw [deletions, List.map_map, List.map_map]
      rfl
    _ = pods.map fun pod => .deletePod (pod.keyIn ns) := by
      rw [hPods]

theorem mem_of_mem_deletions
    {answers : List (Except ClientError Unit)}
    {key : ObjectKey}
    {answer : Except ClientError Unit}
    (h : .deletePod key answer ∈ deletions ns pods answers) :
    answer ∈ answers := by
  rcases List.mem_map.mp h with ⟨e, hZip, hEq⟩
  cases hEq
  exact (List.of_mem_zip hZip).2

/- The requests are for the first pods of the set. -/
theorem Swept.calls_isPrefix
    (h : Swept ns pods record outcome) :
    record.map Answered.call <+:
      pods.map fun pod => .deletePod (pod.keyIn ns) := by
  cases h with
  | cleared hEach _ =>
      refine ⟨[], ?_⟩
      rw [List.append_nil, map_call_deletions hEach]
  | @stopped early late pod _ _ hPods hEach _ _ =>
      rw [List.map_append, map_call_deletions hEach, hPods]
      refine ⟨late.map fun pod => .deletePod (pod.keyIn ns),
        ?_⟩
      simp [Answered.call]

/- They succeed exactly if no pod stays, and then all pods
   were asked for. -/
theorem Swept.ok_iff
    (h : Swept ns pods record outcome) :
    outcome = .ok () ↔
      ∀ key answer, .deletePod key answer ∈ record →
        ¬ Pod.Stays answer := by
  cases h with
  | cleared _ hGone =>
      refine iff_of_true rfl ?_
      intro key answer hRecord
      exact hGone answer (mem_of_mem_deletions hRecord)
  | @stopped _ _ pod _ e _ _ _ hStays =>
      refine iff_of_false (by simp) ?_
      intro hNone
      exact hNone (pod.keyIn ns) (.error e) (by simp) hStays

theorem Swept.calls_of_ok
    (h : Swept ns pods record outcome)
    (hOk : outcome = .ok ()) :
    record.map Answered.call =
      pods.map fun pod => .deletePod (pod.keyIn ns) := by
  cases h with
  | cleared hEach _ => exact map_call_deletions hEach
  | stopped => cases hOk

end NodePods

end Redeploy

------------------------------------------------------------
-- Clusters in Memory
------------------------------------------------------------

namespace Redeploy

/-
  Whether a cluster has lost the pods under some keys, each
  by a request of its own, and is otherwise as it was, but
  for what is left of its script.
-/
structure Cluster.Loses
    (keys : List ObjectKey)
    (c c' : Cluster) : Prop where
  gone : ∀ key ∈ keys, c'.pods.get? key = none
  kept :
    ∀ key, key ∉ keys → c'.pods.get? key = c.pods.get? key
  rest :
    c' =
      { c with
        pods := c'.pods
        calls := c.calls ++ keys.map .deletePod
        script := c'.script }

/- What is lost already cannot be lost once more. -/
theorem Cluster.Loses.again
    {keys : List ObjectKey}
    {c c' c'' : Cluster}
    (h : c.Loses keys c')
    (h' : c'.Loses keys c'') :
    c'' =
      { c' with calls := c''.calls, script := c''.script } := by
  have hPods : c''.pods = c'.pods := by
    apply Table.ext_get?
    intro key
    by_cases hKey : key ∈ keys
    · rw [h.gone key hKey, h'.gone key hKey]
    · exact h'.kept key hKey
  have hRest := h'.rest
  have hCalls := congrArg Cluster.calls hRest
  dsimp only at hCalls
  rw [hPods, ← hCalls] at hRest
  exact hRest

/- Without scripted failures the deletions of pods succeed,
   each on its own. -/
theorem NodePods.Sweeps.loses
    {ns : String}
    {pods : List Pod}
    {s s' : Situation Cluster}
    {outcome : Except Failure Unit}
    (hFree : s.system.Unhindered)
    (h : NodePods.Sweeps Cluster.client ns pods s
      outcome s') :
    outcome = .ok () ∧
      s'.system.Unhindered ∧
      s.system.Loses (pods.map (·.keyIn ns)) s'.system := by
  rcases h.clears hFree with ⟨hOk, hLast, hAfter⟩
  have hPods := congrArg Cluster.pods hAfter
  dsimp only at hPods
  refine ⟨hOk, hLast, ?_⟩
  exact
    { gone := fun key hKey => by
        rw [hPods, Table.get?_eraseAll, if_pos hKey]
      kept := fun key hKey => by
        rw [hPods, Table.get?_eraseAll, if_neg hKey]
      rest := by
        rw [hPods]
        exact hAfter }

end Redeploy

------------------------------------------------------------
-- Runs
------------------------------------------------------------

namespace Redeploy

namespace NodePods

/- What is recorded when a set of pods is deleted. -/
theorem delete_swept
    {σ : Type}
    (pods : NodePods)
    (client : Client σ)
    (ns : String)
    (span : Option Span)
    (w : World σ) :
    ∃ outcome after record,
      (pods.delete client ns span).run w =
        (outcome, after) ∧
      (pods.delete client.recorded ns span).run
          (w.beside []) =
        (outcome, after.beside record) ∧
      Swept ns pods.values record outcome := by
  have hErases :
      (pods.delete client.recorded ns span).Erases
        (pods.delete client ns span) :=
    erases_delete (fun _ => .watched _ _) ns span pods
  have hLeads :=
    (pods.delete client.recorded ns span).leads_run
      (w.beside [])
  rcases hErases.exists_record w with ⟨record, hRecord⟩
  cases hRun : (pods.delete client ns span).run w with
  | mk outcome after =>
      rw [hRun] at hRecord
      rw [hRecord] at hLeads
      rcases (leads_delete hLeads).swept with
        ⟨events, hEvents, hSwept⟩
      cases hEvents
      exact ⟨outcome, after, record, rfl, hRecord, hSwept⟩

/- The deletion of a set of pods from a cluster in memory
   without scripted failures. -/
theorem delete_loses
    (pods : NodePods)
    (ns : String)
    (span : Option Span)
    {w : World Cluster}
    (hFree : w.system.Unhindered) :
    ∃ after,
      (pods.delete Cluster.client ns span).run w =
        (.ok (), after) ∧
      after.system.Unhindered ∧
      w.system.Loses (pods.values.map (·.keyIn ns))
        after.system := by
  have hRun :=
    Act.leads_run (pods.delete Cluster.client ns span) w
  rcases (leads_delete hRun).loses hFree with
    ⟨hOk, hLast, hLoses⟩
  exact ⟨_, Prod.ext hOk rfl, hLast, hLoses⟩

/-
  The pods of a set are deleted in the order of their nodes,
  up to the first that stays for all that is answered, and
  the deletion fails with that answer.  On a cluster in
  memory without scripted failures exactly the pods that are
  asked for are lost, and to ask once more changes nothing.
-/
theorem delete_exact
    (pods : NodePods)
    (ns : String)
    (span : Option Span) :
    pods.Lists (fun _ _ => True) pods.values ∧
    (∀ (σ : Type) (client : Client σ) (w : World σ),
      ∃ outcome after record,
        (pods.delete client ns span).run w =
          (outcome, after) ∧
        (pods.delete client.recorded ns span).run
            (w.beside []) =
          (outcome, after.beside record) ∧
        Swept ns pods.values record outcome ∧
        (record.map Answered.call <+:
          pods.values.map fun pod =>
            .deletePod (pod.keyIn ns)) ∧
        (outcome = .ok () ↔
          ∀ key answer, .deletePod key answer ∈ record →
            ¬ Pod.Stays answer) ∧
        (outcome = .ok () →
          record.map Answered.call =
            pods.values.map fun pod =>
              .deletePod (pod.keyIn ns))) ∧
    ∀ w : World Cluster, w.system.Unhindered →
      ∃ after,
        (pods.delete Cluster.client ns span).run w =
          (.ok (), after) ∧
        w.system.Loses (pods.values.map (·.keyIn ns))
          after.system ∧
        ∀ again : World Cluster,
          again.system = after.system →
          ∃ last,
            (pods.delete Cluster.client ns span).run again =
              (.ok (), last) ∧
            last.system =
              { after.system with
                calls := last.system.calls
                script := last.system.script } := by
  refine ⟨pods.lists_values, ?_, ?_⟩
  · intro σ client w
    rcases pods.delete_swept client ns span w with
      ⟨outcome, after, record, hRun, hRecord, hSwept⟩
    exact ⟨outcome, after, record, hRun, hRecord, hSwept,
      hSwept.calls_isPrefix, hSwept.ok_iff,
      hSwept.calls_of_ok⟩
  · intro w hFree
    rcases pods.delete_loses ns span hFree with
      ⟨after, hRun, hLast, hLoses⟩
    refine ⟨after, hRun, hLoses, ?_⟩
    intro again hAgain
    rw [← hAgain] at hLast hLoses ⊢
    rcases pods.delete_loses ns span hLast with
      ⟨last, hRun', -, hLoses'⟩
    exact ⟨last, hRun', hLoses.again hLoses'⟩

end NodePods

end Redeploy
