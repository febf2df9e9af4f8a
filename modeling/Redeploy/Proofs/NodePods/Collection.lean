import Redeploy.NodePods
import Redeploy.Proofs.Table

/-
  Which of the pods that a client lists are collected.

  Key definitions include:
    * `Pod.OwnedBy`
    * `Pod.LastOwned`
    * `NodePods.Dilutes`
    * `NodePods.Apart`
    * `NodePods.Collects`

  Main results:
    * `NodePods.get?_ofOwned_iff`
    * `NodePods.Dilutes.ofOwned_eq`
    * `NodePods.Apart.ofOwned_perm`
    * `NodePods.collect_exact`

  Pods are collected by the node that they run on.  Of the
  owned pods on one node the last one is kept, and pods that
  are not owned have no part in it, wherever they are listed.
-/

------------------------------------------------------------
-- Owned Pods
------------------------------------------------------------

namespace Redeploy

namespace Pod

/- Whether a pod carries a readable record of an owner that
   is asked for. -/
def OwnedBy
    (isOwner : OwnerReference → Bool)
    (pod : Pod) : Prop :=
  ∃ text reference,
    pod.metadata.annotationText? CreatedBy.annotationKey =
      some text ∧
    OwnerReference.ofRecordText text = .ok reference ∧
    isOwner reference = true

/- The ways in which a pod is not owned. -/
inductive Stranger
    (isOwner : OwnerReference → Bool)
    (pod : Pod) : Prop where
  | unannotated
      (hText :
        pod.metadata.annotationText?
          CreatedBy.annotationKey = none)
  | unreadable
      {text : String}
      {failure : Failure}
      (hText :
        pod.metadata.annotationText?
          CreatedBy.annotationKey = some text)
      (hReads :
        OwnerReference.ofRecordText text = .error failure)
  | foreign
      {text : String}
      {reference : OwnerReference}
      (hText :
        pod.metadata.annotationText?
          CreatedBy.annotationKey = some text)
      (hReads :
        OwnerReference.ofRecordText text = .ok reference)
      (hOther : isOwner reference = false)

variable {isOwner : OwnerReference → Bool}
variable {pod : Pod}

theorem ownership_eq_owned_iff :
    pod.ownership isOwner = .owned ↔ pod.OwnedBy isOwner := by
  unfold ownership OwnedBy
  cases hText :
      pod.metadata.annotationText?
        CreatedBy.annotationKey with
  | none => simp
  | some text =>
      cases hReads : OwnerReference.ofRecordText text with
      | error failure => simp [hReads]
      | ok reference =>
          cases hOwner : isOwner reference with
          | false => simp [hReads, hOwner]
          | true => simp [hReads, hOwner]

theorem Stranger.ownership_ne
    (h : pod.Stranger isOwner) :
    pod.ownership isOwner ≠ .owned := by
  unfold ownership
  cases h with
  | unannotated hText => simp [hText]
  | unreadable hText hReads => simp [hText, hReads]
  | foreign hText hReads hOther =>
      simp [hText, hReads, hOther]

/- Whether a pod is the last owned one of a list on a
   node. -/
def LastOwned
    (isOwner : OwnerReference → Bool)
    (pods : List Pod)
    (node : String)
    (pod : Pod) : Prop :=
  ∃ before after,
    pods = before ++ pod :: after ∧
    pod.OwnedBy isOwner ∧
    pod.nodeName = node ∧
    ∀ later ∈ after, later.OwnedBy isOwner →
      later.nodeName ≠ node

end Pod

end Redeploy

------------------------------------------------------------
-- Collected Pods
------------------------------------------------------------

namespace Redeploy

/- The last element of a list that has a property is followed
   by none that has it. -/
private theorem getLast?_filter_eq_some_iff
    {α : Type}
    {p : α → Bool}
    {xs : List α}
    {a : α} :
    (xs.filter p).getLast? = some a ↔
      ∃ before after, xs = before ++ a :: after ∧
        p a = true ∧ ∀ b ∈ after, p b = false := by
  rw [List.getLast?_filter, List.find?_eq_some_iff_append]
  constructor
  · rintro ⟨hHas, after, before, hSplit, hNone⟩
    refine ⟨before.reverse, after.reverse, ?_, hHas, ?_⟩
    · rw [← List.reverse_reverse xs, hSplit]
      simp
    · intro b hAfter
      simpa using hNone b (List.mem_reverse.mp hAfter)
  · rintro ⟨before, after, rfl, hHas, hNone⟩
    refine ⟨hHas, after.reverse, before.reverse, by simp, ?_⟩
    intro b hAfter
    rw [hNone b (List.mem_reverse.mp hAfter)]
    rfl

namespace NodePods

variable {isOwner : OwnerReference → Bool}
variable {pods : List Pod}
variable {node : String}
variable {pod : Pod}

/- Whether a pod is owned and on a node. -/
private def isOwnedOn
    (isOwner : OwnerReference → Bool)
    (node : String)
    (pod : Pod) : Bool :=
  pod.ownership isOwner == .owned && pod.nodeName == node

private theorem isOwnedOn_iff :
    isOwnedOn isOwner node pod = true ↔
      pod.OwnedBy isOwner ∧ pod.nodeName = node := by
  rw [isOwnedOn, Bool.and_eq_true, beq_iff_eq, beq_iff_eq,
    Pod.ownership_eq_owned_iff]

private theorem get?_ofOwned :
    (ofOwned isOwner pods).get? node =
      (pods.filter (isOwnedOn isOwner node)).getLast? := by
  rw [ofOwned, Table.get?_foldl_insert, Table.get?_empty,
    Option.or_none, List.filter_filter]
  congr 2
  funext pod
  simp only [isOwnedOn, Bool.and_comm, Bool.beq_eq_decide_eq]

/- On each node the last owned pod is collected. -/
theorem get?_ofOwned_iff :
    (ofOwned isOwner pods).get? node = some pod ↔
      pod.LastOwned isOwner pods node := by
  have hNot (later : Pod) :
      isOwnedOn isOwner node later = false ↔
        (later.OwnedBy isOwner → later.nodeName ≠ node) := by
    rw [← Bool.not_eq_true, isOwnedOn_iff, not_and]
  rw [get?_ofOwned, getLast?_filter_eq_some_iff]
  simp only [isOwnedOn_iff, hNot, and_assoc]
  rfl

/- Where an owned pod is, one is collected. -/
theorem exists_get?_ofOwned_iff :
    (∃ pod, (ofOwned isOwner pods).get? node = some pod) ↔
      ∃ pod ∈ pods, pod.OwnedBy isOwner ∧
        pod.nodeName = node := by
  constructor
  · rintro ⟨pod, hGet⟩
    rcases get?_ofOwned_iff.mp hGet with
      ⟨before, after, rfl, hOwned, hNode, -⟩
    exact ⟨pod, by simp, hOwned, hNode⟩
  · rintro ⟨pod, hPod, hOwned⟩
    have hOn : pod ∈ pods.filter (isOwnedOn isOwner node) :=
      List.mem_filter.mpr ⟨hPod, isOwnedOn_iff.mpr hOwned⟩
    rw [get?_ofOwned]
    cases hLast :
        (pods.filter (isOwnedOn isOwner node)).getLast? with
    | none =>
        rw [List.getLast?_eq_none_iff.mp hLast] at hOn
        cases hOn
    | some last => exact ⟨last, rfl⟩

end NodePods

end Redeploy

------------------------------------------------------------
-- Strangers and Order
------------------------------------------------------------

namespace Redeploy

namespace NodePods

variable {isOwner : OwnerReference → Bool}
variable {pods more other : List Pod}

/- Whether a list is another one with pods anywhere among it
   that are not owned. -/
inductive Dilutes
    (isOwner : OwnerReference → Bool) :
    List Pod → List Pod → Prop where
  | nil :
      Dilutes isOwner [] []
  | keep
      (pod : Pod)
      {pods more : List Pod}
      (hRest : Dilutes isOwner pods more) :
      Dilutes isOwner (pod :: pods) (pod :: more)
  | stranger
      {pod : Pod}
      {pods more : List Pod}
      (hStranger : pod.Stranger isOwner)
      (hRest : Dilutes isOwner pods more) :
      Dilutes isOwner pods (pod :: more)

/- Strangers among the pods change nothing. -/
theorem Dilutes.ofOwned_eq
    (h : Dilutes isOwner pods more) :
    ofOwned isOwner more = ofOwned isOwner pods := by
  have hOwned :
      more.filter (fun pod => pod.ownership isOwner == .owned) =
        pods.filter
          (fun pod => pod.ownership isOwner == .owned) := by
    induction h with
    | nil => rfl
    | keep pod _ ih =>
        rw [List.filter_cons, List.filter_cons, ih]
    | stranger hStranger _ ih =>
        rw [List.filter_cons_of_neg, ih]
        rw [beq_iff_eq]
        exact hStranger.ownership_ne
  unfold ofOwned
  rw [hOwned]

/- Whether no two owned pods of a list are on one node. -/
def Apart
    (isOwner : OwnerReference → Bool)
    (pods : List Pod) : Prop :=
  pods.Pairwise fun pod pod' =>
    pod.OwnedBy isOwner → pod'.OwnedBy isOwner →
      pod.nodeName ≠ pod'.nodeName

theorem Apart.perm
    (h : Apart isOwner pods)
    (hPerm : pods.Perm other) :
    Apart isOwner other := by
  refine (hPerm.pairwise_iff ?_).mp h
  intro pod pod' hApart hOwned hOwned'
  exact (hApart hOwned' hOwned).symm

/- Then every owned pod is the last one on its node. -/
theorem Apart.get?_ofOwned_iff
    (h : Apart isOwner pods)
    {node : String}
    {pod : Pod} :
    (ofOwned isOwner pods).get? node = some pod ↔
      pod ∈ pods ∧ pod.OwnedBy isOwner ∧
        pod.nodeName = node := by
  rw [NodePods.get?_ofOwned_iff]
  constructor
  · rintro ⟨before, after, rfl, hOwned, hNode, -⟩
    exact ⟨by simp, hOwned, hNode⟩
  · rintro ⟨hPod, hOwned, rfl⟩
    rcases List.append_of_mem hPod with
      ⟨before, after, rfl⟩
    have hAfter := (List.pairwise_append.mp h).2.1
    refine ⟨before, after, rfl, hOwned, rfl, ?_⟩
    intro later hLater hOwned'
    exact ((List.pairwise_cons.mp hAfter).1 later hLater
      hOwned hOwned').symm

/- Nor does the order of the list matter then. -/
theorem Apart.ofOwned_perm
    (h : Apart isOwner pods)
    (hPerm : pods.Perm other) :
    ofOwned isOwner other = ofOwned isOwner pods := by
  apply Table.ext_get?
  intro node
  apply Option.ext
  intro pod
  rw [(h.perm hPerm).get?_ofOwned_iff, h.get?_ofOwned_iff,
    hPerm.mem_iff]

end NodePods

end Redeploy

------------------------------------------------------------
-- Collections
------------------------------------------------------------

namespace Redeploy

/- A world in which notices have been made in a span. -/
def World.noting
    {σ : Type}
    (w : World σ)
    (span : Option Span)
    (notices : List Notice) : World σ :=
  { w with log := w.log ++ notices.map fun n => ⟨span, n⟩ }

theorem Act.run_notes
    {ε σ : Type}
    (span : Option Span)
    (notices : List Notice)
    (w : World σ) :
    (notices.forM (Act.noteIn span) : Act ε σ PUnit).run w =
      (.ok ⟨⟩, w.noting span notices) := by
  induction notices generalizing w with
  | nil => simp [World.noting]
  | cons notice rest ih =>
      change (Act.noteIn span notice >>= fun _ =>
        rest.forM (Act.noteIn span)).run w = _
      rw [Act.run_bind, Act.run_noteIn]
      dsimp only
      rw [ih]
      simp [World.noting]

namespace NodePods

variable {isOwner : OwnerReference → Bool}

/- Whether the pods of a list are collected into a set,
   whichever client lists them. -/
def Collects
    (isOwner : OwnerReference → Bool)
    (pods : List Pod)
    (set : NodePods) : Prop :=
  ∀ (σ : Type) (client : Client σ) (ns : String)
    (matchLabels : Option Labels) (span : Option Span)
    (w after : World σ),
    (client.listPods ns
      ((matchLabels.map Labels.selector).getD "")).run w =
        (.ok pods, after) →
    (collect client ns matchLabels span isOwner).run w =
      (.ok set,
        after.noting span
          (pods.filterMap (·.notice? isOwner)))

theorem collects_ofOwned
    (pods : List Pod) :
    Collects isOwner pods (ofOwned isOwner pods) := by
  intro σ client ns matchLabels span w after hList
  have hPods :
      (Client.request (client.listPods ns
        ((matchLabels.map Labels.selector).getD ""))).run w =
          (.ok pods, after) := by
    rw [Client.request, Act.run_mapError, hList]
    rfl
  rw [collect, Act.run_bind, hPods]
  dsimp only
  rw [Act.run_bind, Act.run_notes]
  rfl

/-
  Of the pods that a client lists, the last owned one on each
  node is collected.  Pods that are not owned may be listed
  anywhere, and where no two owned pods share a node, all of
  them are collected, in whatever order they are listed.
  Without a list there is only the translated failure.
-/
theorem collect_exact
    (isOwner : OwnerReference → Bool) :
    (∀ (σ : Type) (client : Client σ) (ns : String)
      (matchLabels : Option Labels) (span : Option Span)
      (w after : World σ) (e : ClientError),
      (client.listPods ns
        ((matchLabels.map Labels.selector).getD "")).run w =
          (.error e, after) →
      (collect client ns matchLabels span isOwner).run w =
        (.error (Failure.ofClient "" e), after)) ∧
    ∀ pods, ∃ set,
      Collects isOwner pods set ∧
      (∀ node pod,
        set.get? node = some pod ↔
          pod.LastOwned isOwner pods node) ∧
      (∀ node,
        (∃ pod, set.get? node = some pod) ↔
          ∃ pod ∈ pods, pod.OwnedBy isOwner ∧
            pod.nodeName = node) ∧
      (∀ more, Dilutes isOwner pods more →
        Collects isOwner more set) ∧
      (Apart isOwner pods →
        (∀ pod ∈ pods, pod.OwnedBy isOwner →
          set.get? pod.nodeName = some pod) ∧
        ∀ other, pods.Perm other →
          Collects isOwner other set) := by
  constructor
  · intro σ client ns matchLabels span w after e hList
    rw [collect, Act.run_bind, Client.request,
      Act.run_mapError, hList]
    rfl
  · intro pods
    refine ⟨ofOwned isOwner pods, collects_ofOwned pods,
      fun _ _ => get?_ofOwned_iff,
      fun _ => exists_get?_ofOwned_iff, ?_, ?_⟩
    · intro more hDilutes
      rw [← hDilutes.ofOwned_eq]
      exact collects_ofOwned more
    · intro hApart
      refine ⟨?_, ?_⟩
      · intro pod hPod hOwned
        exact hApart.get?_ofOwned_iff.mpr ⟨hPod, hOwned, rfl⟩
      · intro other hPerm
        rw [← hApart.ofOwned_perm hPerm]
        exact collects_ofOwned other

end NodePods

end Redeploy
