import Redeploy.JobController
import Redeploy.Proofs.Cluster.Reachable
import Redeploy.Proofs.NodePods.Collection
import Redeploy.Proofs.Workload.Course

/-
  The pods that a job owns in a cluster, and which of them
  are collected.

  Key definitions include:
    * `Job.Created`
    * `Cluster.Owns`
    * `Cluster.OwnsLast`
    * `Cluster.stale`

  Main results:
    * `Cluster.mem_stale_iff`
    * `Cluster.nodup_stale`

  Pods are collected by the node that they run on, so of the
  owned pods on one node only the last one is collected, by
  the order of their names.
-/

------------------------------------------------------------
-- Ownership
------------------------------------------------------------

namespace Redeploy

/- Whether a pod says that it was created by a job, and by
   this very one. -/
def Job.Created
    (job : Job)
    (pod : Pod) : Prop :=
  ∃ text reference uid,
    pod.metadata.annotationText? CreatedBy.annotationKey =
      some text ∧
    OwnerReference.ofRecordText text = .ok reference ∧
    reference.kind = some "Job" ∧
    reference.uid = some uid ∧
    job.metadata.uid = some uid

/- The selector by which the pods of a job are listed. -/
def Job.podSelector
    (job : Job) : String :=
  (job.matchLabels.map Labels.selector).getD ""

theorem Job.isOwner_iff
    {job : Job}
    {reference : OwnerReference} :
    job.isOwner reference = true ↔
      reference.kind = some "Job" ∧
      ∃ uid, reference.uid = some uid ∧
        job.metadata.uid = some uid := by
  unfold isOwner
  cases hUid : job.metadata.uid with
  | none => simp
  | some uid => simp [Job.kind]

theorem Job.ownedBy_iff
    {job : Job}
    {pod : Pod} :
    pod.OwnedBy job.isOwner ↔ job.Created pod := by
  constructor
  · rintro ⟨text, reference, hText, hReads, hOwner⟩
    rcases Job.isOwner_iff.mp hOwner with
      ⟨hKind, uid, hUid, hJob⟩
    exact ⟨text, reference, uid, hText, hReads, hKind, hUid,
      hJob⟩
  · rintro ⟨text, reference, uid, hText, hReads, hKind, hUid,
      hJob⟩
    exact ⟨text, reference, hText, hReads,
      Job.isOwner_iff.mpr ⟨hKind, uid, hUid, hJob⟩⟩

theorem Job.ownership_eq_owned_iff
    {job : Job}
    {pod : Pod} :
    pod.ownership job.isOwner = .owned ↔
      job.Created pod := by
  rw [Pod.ownership_eq_owned_iff, Job.ownedBy_iff]

/- A pod was created by one job only. -/
theorem Job.Created.uid_eq
    {job job' : Job}
    {pod : Pod}
    (h : job.Created pod)
    (h' : job'.Created pod) :
    job.metadata.uid = job'.metadata.uid := by
  rcases h with
    ⟨text, reference, uid, hText, hReads, -, hUid, hJob⟩
  rcases h' with
    ⟨_, _, _, hText', hReads', -, hUid', hJob'⟩
  rw [hText] at hText'
  cases hText'
  rw [hReads] at hReads'
  cases hReads'
  rw [hJob, hJob', ← hUid, ← hUid']

namespace Cluster

/- Whether a pod stands under a key and belongs to a job in a
   namespace. -/
structure Owns
    (c : Cluster)
    (job : Job)
    (ns : String)
    (key : ObjectKey)
    (pod : Pod) : Prop where
  stored : c.pods.get? key = some pod
  ns_eq : key.ns = ns
  selected :
    Selector.selects job.podSelector pod.metadata.labels =
      true
  created : job.Created pod

/- Whether the pod under a key belongs to a job and no other
   pod of that job on the same node comes after it. -/
def OwnsLast
    (c : Cluster)
    (job : Job)
    (ns : String)
    (key : ObjectKey) : Prop :=
  ∃ pod, c.Owns job ns key pod ∧
    ∀ key' pod', c.Owns job ns key' pod' →
      pod'.nodeName = pod.nodeName →
      key'.name ≤ key.name

/- The pods of a job that are collected. -/
def collected
    (c : Cluster)
    (job : Job)
    (ns : String) : NodePods :=
  .ofOwned job.isOwner (c.selected ns job.podSelector)

/- The keys under which the collected pods are deleted. -/
def stale
    (c : Cluster)
    (job : Job)
    (ns : String) : List ObjectKey :=
  (c.collected job ns).values.map (·.keyIn ns)

variable {c c' : Cluster}
variable {job : Job}
variable {ns : String}

/- Ownership is a matter of the stored pods alone. -/
theorem Owns.congr
    {key : ObjectKey}
    {pod : Pod}
    (h : c.Owns job ns key pod)
    (hStored : c'.pods.get? key = some pod) :
    c'.Owns job ns key pod :=
  { h with stored := hStored }

theorem owns_congr
    {key : ObjectKey}
    {pod : Pod}
    (hPods : c'.pods = c.pods) :
    c'.Owns job ns key pod ↔ c.Owns job ns key pod := by
  constructor
  · intro h
    have hStored := h.stored
    rw [hPods] at hStored
    exact h.congr hStored
  · intro h
    have hStored := h.stored
    rw [← hPods] at hStored
    exact h.congr hStored

/- So is which of the owned pods comes last. -/
theorem ownsLast_congr
    {key : ObjectKey}
    (h :
      ∀ key pod,
        c'.Owns job ns key pod ↔ c.Owns job ns key pod) :
    c'.OwnsLast job ns key ↔ c.OwnsLast job ns key := by
  simp only [OwnsLast, h]

theorem collected_congr
    (hPods : c'.pods = c.pods)
    (job : Job)
    (ns : String) :
    c'.collected job ns = c.collected job ns := by
  unfold collected selected
  rw [hPods]

end Cluster

end Redeploy

------------------------------------------------------------
-- Collected Pods
------------------------------------------------------------

namespace Redeploy

namespace Cluster

variable {c : Cluster}
variable {job : Job}
variable {ns : String}

/- In one namespace keys are ordered by name. -/
private theorem name_le
    {key key' : ObjectKey}
    (hNs : key.ns = ns)
    (hNs' : key'.ns = ns)
    (hLess : compare key key' = .lt) :
    key.name ≤ key'.name := by
  replace hLess :
      (compare key.ns key'.ns).then
        (compare key.name key'.name) = .lt := hLess
  rw [hNs, hNs', Std.compare_self] at hLess
  exact Std.le_of_lt (compareOfLessAndEq_eq_lt.mp hLess)

private theorem Owns.mem_selected
    {key : ObjectKey}
    {pod : Pod}
    (h : c.Owns job ns key pod) :
    pod ∈ c.selected ns job.podSelector :=
  (c.lists_selected ns job.podSelector).mem_iff.mpr
    ⟨key, h.stored, h.ns_eq, h.selected⟩

/- On each node the last pod of the job is collected. -/
private theorem collected_last
    {node : String}
    {pod : Pod}
    (hKeys :
      ∀ key pod, c.pods.get? key = some pod →
        pod.key = key)
    (h : (c.collected job ns).get? node = some pod) :
    c.Owns job ns pod.key pod ∧ pod.nodeName = node ∧
      ∀ key' pod', c.Owns job ns key' pod' →
        pod'.nodeName = node →
        key'.name ≤ pod.key.name := by
  have hLists := c.lists_selected ns job.podSelector
  rcases NodePods.get?_ofOwned_iff.mp h with
    ⟨before, after, hSplit, hOwned, hNode, hNone⟩
  have hPod : pod ∈ c.selected ns job.podSelector := by
    simp [hSplit]
  rcases hLists.mem_iff.mp hPod with
    ⟨key, hStored, hNs, hSelected⟩
  cases hKeys key pod hStored
  refine ⟨⟨hStored, hNs, hSelected,
    Job.ownedBy_iff.mp hOwned⟩, hNode, ?_⟩
  intro key' pod' hOwns' hNode'
  cases hKeys key' pod' hOwns'.stored
  have hPod' := hOwns'.mem_selected
  rw [hSplit, List.mem_append, List.mem_cons] at hPod'
  rcases hPod' with hBefore | rfl | hAfter
  · have hOrdered := hLists.pairwise hKeys
    rw [hSplit, List.pairwise_append] at hOrdered
    have hLess : compare pod'.key pod.key = .lt :=
      hOrdered.2.2 pod' hBefore pod List.mem_cons_self
    exact name_le hOwns'.ns_eq hNs hLess
  · exact Std.le_refl _
  · cases hNone pod' hAfter
      (Job.ownedBy_iff.mpr hOwns'.created) hNode'

/- Where a pod of the job is, one is collected. -/
private theorem exists_collected
    {key : ObjectKey}
    {pod : Pod}
    (hOwns : c.Owns job ns key pod) :
    ∃ last,
      (c.collected job ns).get? pod.nodeName = some last :=
  NodePods.exists_get?_ofOwned_iff.mpr
    ⟨pod, hOwns.mem_selected,
      Job.ownedBy_iff.mpr hOwns.created, rfl⟩

/- A stored pod of the job is deleted under its own key. -/
private theorem Owns.keyIn
    {pod : Pod}
    (hOwns : c.Owns job ns pod.key pod) :
    pod.keyIn ns = pod.key := by
  have hNs : pod.metadata.ns.getD "" = ns := hOwns.ns_eq
  have hKept : pod.metadata.ns.getD ns = ns := by
    cases hOwn : pod.metadata.ns with
    | none => rfl
    | some own =>
        rw [hOwn] at hNs
        exact hNs
  apply ObjectKey.ext
  · exact hKept.trans hNs.symm
  · rfl

end Cluster

end Redeploy

------------------------------------------------------------
-- Stale Pods
------------------------------------------------------------

namespace Redeploy

namespace Cluster

variable {c : Cluster}
variable {job : Job}
variable {ns : String}

/- What is collected is owned, under the key by which it is
   deleted. -/
theorem owns_of_mem_collected
    {pod : Pod}
    (hKeys :
      ∀ key pod, c.pods.get? key = some pod →
        pod.key = key)
    (hPod : pod ∈ (c.collected job ns).values) :
    c.Owns job ns (pod.keyIn ns) pod := by
  rcases Table.mem_values_iff.mp hPod with ⟨node, hGet⟩
  have hOwns := (collected_last hKeys hGet).1
  rw [hOwns.keyIn]
  exact hOwns

/- Exactly the last pod of the job on each node is stale. -/
theorem mem_stale_iff
    (hKeys :
      ∀ key pod, c.pods.get? key = some pod →
        pod.key = key)
    {key : ObjectKey} :
    key ∈ c.stale job ns ↔ c.OwnsLast job ns key := by
  unfold stale
  rw [List.mem_map]
  constructor
  · rintro ⟨pod, hPod, rfl⟩
    rcases Table.mem_values_iff.mp hPod with ⟨node, hGet⟩
    rcases collected_last hKeys hGet with
      ⟨hOwns, hNode, hLast⟩
    rw [hOwns.keyIn]
    refine ⟨pod, hOwns, ?_⟩
    intro key' pod' hOwns' hNode'
    exact hLast key' pod' hOwns' (hNode'.trans hNode)
  · rintro ⟨pod, hOwns, hLast⟩
    rcases exists_collected hOwns with ⟨last, hGet⟩
    rcases collected_last hKeys hGet with
      ⟨hOwns', hNode', hLast'⟩
    have hName : last.key.name = key.name :=
      Std.le_antisymm (hLast _ _ hOwns' hNode')
        (hLast' _ _ hOwns rfl)
    have hKey : last.key = key :=
      ObjectKey.ext (hOwns'.ns_eq.trans hOwns.ns_eq.symm)
        hName
    exact ⟨last, Table.mem_values_iff.mpr ⟨_, hGet⟩,
      hOwns'.keyIn.trans hKey⟩

/- No pod is deleted twice. -/
theorem nodup_stale
    (hKeys :
      ∀ key pod, c.pods.get? key = some pod →
        pod.key = key) :
    (c.stale job ns).Nodup := by
  have hNodes :
      (c.collected job ns).values.Pairwise
        (fun pod pod' =>
          compare pod.nodeName pod'.nodeName = .lt) :=
    (Table.lists_values _).pairwise fun _ _ hGet =>
      (collected_last hKeys hGet).2.1
  have hOwned (pod : Pod)
      (hPod : pod ∈ (c.collected job ns).values) :
      c.Owns job ns pod.key pod := by
    rcases Table.mem_values_iff.mp hPod with ⟨node, hGet⟩
    exact (collected_last hKeys hGet).1
  unfold stale
  rw [List.Nodup, List.pairwise_map]
  apply hNodes.imp_of_mem
  intro pod pod' hPod hPod' hLess hSame
  have hOwns := hOwned pod hPod
  have hOwns' := hOwned pod' hPod'
  rw [hOwns.keyIn, hOwns'.keyIn] at hSame
  have hStored := hOwns.stored
  rw [hSame, hOwns'.stored] at hStored
  cases hStored
  rw [Std.compare_self] at hLess
  cases hLess

end Cluster

end Redeploy
