import Mathlib.Tactic.MkIffOfInductiveProp
import Redeploy.Readiness

/-
  What the check of expected nodes comes to.

  Key definitions include:
    * `Pod.Stalled`, `Pod.MeetsReady`
    * `NodePods.Offends`
    * `NodePods.Spotless`
    * `NodePods.AddsUpTo`
    * `NodePods.looked`, `NodePods.offence?`
    * `NodePods.Judges`
    * `NodePods.AgreeOn`, `NodePods.StalledFirst`

  Main results:
    * `Act.run_mapM`
    * `NodePods.run_readiness`
    * `NodePods.judges_readiness`
    * `NodePods.Judges.eq_ok_iff`
    * `NodePods.AgreeOn.readiness`
    * `NodePods.readiness_exact`

  Every node is looked at.  The first one without a pod, or
  with a pod that neither runs nor has completed, fails the
  check, whatever comes before or after it.  Without such a
  node the order of the list does not matter.
-/

------------------------------------------------------------
-- Pods
------------------------------------------------------------

namespace Redeploy

namespace Pod

/- Whether a pod has run to completion. -/
def Done
    (pod : Pod) : Prop :=
  pod.phase = "Succeeded" ∨ pod.phase = "Failed"

/- Whether a pod neither runs nor has run to completion. -/
def Stalled
    (pod : Pod) : Prop :=
  pod.phase ≠ "Running" ∧ ¬ pod.Done

/- Whether the first condition on readiness is met. -/
def MeetsReady
    (pod : Pod) : Prop :=
  ∃ before condition after,
    pod.status.bind (·.conditions) =
      some (before ++ condition :: after) ∧
    (∀ earlier ∈ before, earlier.type ≠ "Ready") ∧
    condition.type = "Ready" ∧
    condition.status = "True"

variable {pod : Pod}

theorem isReady_iff :
    pod.isReady = true ↔ pod.MeetsReady := by
  unfold isReady MeetsReady
  cases hConditions : pod.status.bind (·.conditions) with
  | none => simp
  | some conditions =>
      rw [Option.bind_some]
      constructor
      · intro hReady
        split at hReady
        next condition hFirst =>
          rcases List.find?_eq_some_iff_append.mp hFirst with
            ⟨hType, before, after, rfl, hBefore⟩
          refine ⟨before, condition, after, rfl, ?_,
            beq_iff_eq.mp hType, beq_iff_eq.mp hReady⟩
          intro earlier hEarlier
          simpa using hBefore earlier hEarlier
        next => cases hReady
      · rintro ⟨before, condition, after, hSplit, hBefore,
          hType, hStatus⟩
        cases hSplit
        have hFirst :
            (before ++ condition :: after).find?
                (·.type == "Ready") =
              some condition := by
          refine List.find?_eq_some_iff_append.mpr
            ⟨beq_iff_eq.mpr hType, before, after, rfl, ?_⟩
          intro earlier hEarlier
          simpa using hBefore earlier hEarlier
        rw [hFirst]
        exact beq_iff_eq.mpr hStatus

end Pod

end Redeploy

------------------------------------------------------------
-- Nodes
------------------------------------------------------------

namespace Redeploy

namespace NodePods

/- Why the pods cannot be ready, for one node. -/
@[mk_iff]
inductive Offends
    (pods : NodePods)
    (node : Node) : Failure → Prop where
  | missing
      (hNone : pods.get? node.name = none) :
      Offends pods node
        (.notFound ("no pod found on node " ++ node.name))
  | stalled
      {pod : Pod}
      (hPod : pods.get? node.name = some pod)
      (hStalled : pod.Stalled) :
      Offends pods node
        (.compareFailed
          ("pod " ++ pod.metadata.path ++
            " is not running yet, status: " ++
            Text.quoted pod.phase ++ ", ready: false"))

/- Whether no node keeps the pods from being ready. -/
def Spotless
    (pods : NodePods)
    (nodes : List Node) : Prop :=
  ∀ node ∈ nodes, ∀ failure, ¬ pods.Offends node failure

/- Whether the pod of a node runs but is not ready. -/
def Unready
    (pods : NodePods)
    (node : Node) : Prop :=
  ∃ pod, pods.get? node.name = some pod ∧
    pod.phase = "Running" ∧ ¬ pod.MeetsReady

/- Whether the pod of a node has run to completion. -/
def Finished
    (pods : NodePods)
    (node : Node) : Prop :=
  ∃ pod, pods.get? node.name = some pod ∧ pod.Done

/- What the pods of some nodes, none of which keeps them from
   being ready, amount to. -/
def AddsUpTo
    (pods : NodePods)
    (nodes : List Node) : Readiness → Prop
  | .notReady => ∃ node ∈ nodes, pods.Unready node
  | .completed => ∀ node ∈ nodes, pods.Finished node
  | .ready =>
      (∀ node ∈ nodes, ¬ pods.Unready node) ∧
        ∃ node ∈ nodes, ¬ pods.Finished node

variable {pods : NodePods}
variable {node : Node}
variable {nodes : List Node}

/- What is found on a node, and when. -/
theorem finding_cases
    (pods : NodePods)
    (node : String) :
    (pods.get? node = none ∧ pods.finding node = .missing) ∨
    ∃ pod, pods.get? node = some pod ∧
      ((pod.Done ∧ pods.finding node = .finished pod) ∨
        (pod.phase = "Running" ∧
          pods.finding node = .running pod) ∨
        (pod.Stalled ∧ pods.finding node = .stalled pod)) := by
  unfold finding
  cases hPod : pods.get? node with
  | none => exact .inl ⟨rfl, rfl⟩
  | some pod =>
      refine .inr ⟨pod, rfl, ?_⟩
      dsimp only
      split
      next hDone => exact .inl ⟨hDone.symm, rfl⟩
      next hUndone =>
        split
        next hRuns => exact .inr (.inl ⟨hRuns, rfl⟩)
        next hIdle =>
          exact .inr (.inr
            ⟨⟨hIdle, fun hDone => hUndone hDone.symm⟩, rfl⟩)

theorem not_done_of_running
    {pod : Pod}
    (hRuns : pod.phase = "Running") :
    ¬ pod.Done := by
  simp [Pod.Done, hRuns]

/- A node fails the check exactly if it offends. -/
theorem failure?_finding_iff
    {failure : Failure} :
    (pods.finding node.name).failure? node.name =
        some failure ↔
      pods.Offends node failure := by
  rw [offends_iff]
  rcases pods.finding_cases node.name with
    ⟨hNone, hFound⟩ | ⟨pod, hPod, hKinds⟩
  · simp [hFound, hNone, Finding.failure?, eq_comm]
  · rcases hKinds with
      ⟨hDone, hFound⟩ | ⟨hRuns, hFound⟩ | ⟨hStalled, hFound⟩
    · have hNot : ¬ pod.Stalled :=
        fun hStalled => hStalled.2 hDone
      simp [hFound, hPod, hNot, Finding.failure?]
    · have hNot : ¬ pod.Stalled :=
        fun hStalled => hStalled.1 hRuns
      simp [hFound, hPod, hNot, Finding.failure?]
    · simp [hFound, hPod, hStalled, Finding.failure?,
        eq_comm]

theorem isUnready_finding_iff :
    (pods.finding node.name).isUnready = true ↔
      pods.Unready node := by
  unfold Unready
  rcases pods.finding_cases node.name with
    ⟨hNone, hFound⟩ | ⟨pod, hPod, hKinds⟩
  · simp [hFound, hNone, Finding.isUnready]
  · rcases hKinds with
      ⟨hDone, hFound⟩ | ⟨hRuns, hFound⟩ | ⟨hStalled, hFound⟩
    · have hIdle : pod.phase ≠ "Running" :=
        fun hRuns => not_done_of_running hRuns hDone
      simp [hFound, hPod, hIdle, Finding.isUnready]
    · simp [hFound, hPod, hRuns, Finding.isUnready,
        ← Pod.isReady_iff]
    · simp [hFound, hPod, hStalled.1, Finding.isUnready]

theorem isFinished_finding_iff :
    (pods.finding node.name).isFinished = true ↔
      pods.Finished node := by
  unfold Finished
  rcases pods.finding_cases node.name with
    ⟨hNone, hFound⟩ | ⟨pod, hPod, hKinds⟩
  · simp [hFound, hNone, Finding.isFinished]
  · rcases hKinds with
      ⟨hDone, hFound⟩ | ⟨hRuns, hFound⟩ | ⟨hStalled, hFound⟩
    · simp [hFound, hPod, hDone, Finding.isFinished]
    · simp [hFound, hPod, not_done_of_running hRuns,
        Finding.isFinished]
    · simp [hFound, hPod, hStalled.2, Finding.isFinished]

end NodePods

end Redeploy

------------------------------------------------------------
-- Runs
------------------------------------------------------------

namespace Redeploy

variable {σ : Type}

/- Steps whose outcomes do not depend on the world have one
   outcome in sequence as well. -/
theorem Act.run_mapM
    {ε α β : Type}
    {step : α → Act ε σ β}
    {outcome : α → Except ε β}
    (hStep : ∀ a w, ((step a).run w).1 = outcome a)
    (as : List α)
    (w : World σ) :
    ((as.mapM step).run w).1 = as.mapM outcome := by
  induction as generalizing w with
  | nil => rfl
  | cons a rest ih =>
      have hFirst := hStep a w
      rw [List.mapM_cons, List.mapM_cons, Act.run_bind]
      cases hRun : (step a).run w with
      | mk first after =>
          rw [hRun] at hFirst
          rw [← hFirst]
          cases first with
          | error e => rfl
          | ok b =>
              dsimp only
              rw [← ih after, Act.run_bind]
              cases (rest.mapM step).run after with
              | mk others last => cases others <;> rfl

namespace NodePods

/- What comes of looking at a node. -/
def looked
    (pods : NodePods)
    (node : Node) : Except Failure Finding :=
  match (pods.finding node.name).failure? node.name with
  | some failure => .error failure
  | none => .ok (pods.finding node.name)

/- The failure of the first node that offends. -/
def offence?
    (pods : NodePods)
    (nodes : List Node) : Option Failure :=
  nodes.findSome? fun node =>
    (pods.finding node.name).failure? node.name

/- What is found on the nodes. -/
def findings
    (pods : NodePods)
    (nodes : List Node) : List Finding :=
  nodes.map fun node => pods.finding node.name

section Looks

variable (pods : NodePods)
variable (span : Option Span)

theorem run_inspect
    (node : Node)
    (w : World σ) :
    ((pods.inspect span node).run w).1 =
      pods.looked node := by
  unfold inspect looked
  dsimp only
  cases (pods.finding node.name).notice? node.name with
  | none =>
      cases (pods.finding node.name).failure? node.name <;> rfl
  | some notice =>
      cases (pods.finding node.name).failure? node.name <;> rfl

/- The nodes are looked at one after the other, up to the
   first that offends. -/
theorem mapM_looked
    (nodes : List Node) :
    nodes.mapM pods.looked =
      match pods.offence? nodes with
      | some failure => .error failure
      | none => .ok (pods.findings nodes) := by
  unfold offence? findings
  induction nodes with
  | nil => rfl
  | cons node rest ih =>
      rw [List.mapM_cons, List.findSome?_cons, List.map_cons,
        ih, looked]
      cases (pods.finding node.name).failure? node.name with
      | some failure => rfl
      | none =>
          dsimp only
          cases rest.findSome? fun node =>
            (pods.finding node.name).failure? node.name <;> rfl

/- What a check comes to, whatever the world is like. -/
theorem run_readiness
    (nodes : List Node)
    (w : World σ) :
    ((pods.readiness nodes span).run w).1 =
      if nodes = [] then
        .error (.notFound
          ("no nodes to check " ++ toString pods.size ++
            " pods against"))
      else
        match pods.offence? nodes with
        | some failure => .error failure
        | none => .ok (.ofFindings (pods.findings nodes)) := by
  unfold readiness
  by_cases hNone : nodes = []
  · rw [if_pos hNone, hNone]
    rfl
  · have hSome : ¬ nodes.isEmpty = true := by simpa
    have hLooks := Act.run_mapM (pods.run_inspect span) nodes w
    rw [pods.mapM_looked] at hLooks
    rw [if_neg hNone, if_neg hSome, Act.run_bind]
    cases hRun : (nodes.mapM (pods.inspect span)).run w with
    | mk found after =>
        rw [hRun] at hLooks
        dsimp only at hLooks
        rw [hLooks]
        cases pods.offence? nodes <;> rfl

end Looks

end NodePods

end Redeploy

------------------------------------------------------------
-- Judgements
------------------------------------------------------------

namespace Redeploy

namespace NodePods

variable {pods : NodePods}
variable {nodes nodes' : List Node}

/- Whether an outcome is what the check of some nodes is to
   come to. -/
structure Judges
    (pods : NodePods)
    (nodes : List Node)
    (outcome : Except Failure Readiness) : Prop where
  empty :
    nodes = [] →
      outcome =
        .error (.notFound
          ("no nodes to check " ++ toString pods.size ++
            " pods against"))
  /- The first node that offends decides. -/
  offended :
    ∀ before node after failure,
      nodes = before ++ node :: after →
      pods.Spotless before →
      pods.Offends node failure →
      outcome = .error failure
  spotless :
    nodes ≠ [] → pods.Spotless nodes →
      ∃ readiness, outcome = .ok readiness ∧
        ∀ other, readiness = other ↔
          pods.AddsUpTo nodes other

theorem offence?_eq_none_iff :
    pods.offence? nodes = none ↔ pods.Spotless nodes := by
  unfold offence? Spotless
  rw [List.findSome?_eq_none_iff]
  apply forall₂_congr
  intro node _
  simp only [Option.eq_none_iff_forall_ne_some, ne_eq,
    failure?_finding_iff]

theorem offence?_eq_some_iff
    {failure : Failure} :
    pods.offence? nodes = some failure ↔
      ∃ before node after,
        nodes = before ++ node :: after ∧
        pods.Spotless before ∧
        pods.Offends node failure := by
  unfold offence?
  rw [List.findSome?_eq_some_iff]
  constructor
  · rintro ⟨before, node, after, hSplit, hFailure, hBefore⟩
    exact ⟨before, node, after, hSplit,
      offence?_eq_none_iff.mp
        (List.findSome?_eq_none_iff.mpr hBefore),
      failure?_finding_iff.mp hFailure⟩
  · rintro ⟨before, node, after, hSplit, hBefore, hOffends⟩
    exact ⟨before, node, after, hSplit,
      failure?_finding_iff.mpr hOffends,
      List.findSome?_eq_none_iff.mp
        (offence?_eq_none_iff.mpr hBefore)⟩

theorem Unready.not_finished
    {node : Node}
    (h : pods.Unready node) :
    ¬ pods.Finished node := by
  rcases h with ⟨pod, hPod, hRuns, -⟩
  rintro ⟨_, hPod', hDone⟩
  rw [hPod] at hPod'
  cases hPod'
  exact not_done_of_running hRuns hDone

/- Findings amount to what the pods of the nodes do. -/
theorem ofFindings_eq_iff
    (readiness : Readiness) :
    .ofFindings (pods.findings nodes) = readiness ↔
      pods.AddsUpTo nodes readiness := by
  have hAny :
      (pods.findings nodes).any Finding.isUnready = true ↔
        ∃ node ∈ nodes, pods.Unready node := by
    simp [findings, isUnready_finding_iff]
  have hAll :
      (pods.findings nodes).all Finding.isFinished = true ↔
        ∀ node ∈ nodes, pods.Finished node := by
    simp [findings, isFinished_finding_iff]
  unfold Readiness.ofFindings
  by_cases hUnready : ∃ node ∈ nodes, pods.Unready node
  · have hUnfinished :
        ¬ ∀ node ∈ nodes, pods.Finished node := by
      intro hFinished
      rcases hUnready with ⟨node, hNode, hNot⟩
      exact hNot.not_finished (hFinished node hNode)
    rw [if_pos (hAny.mpr hUnready)]
    cases readiness with
    | ready =>
        refine iff_of_false (by simp) ?_
        rintro ⟨hNone, -⟩
        rcases hUnready with ⟨node, hNode, hNot⟩
        exact hNone node hNode hNot
    | notReady => exact iff_of_true rfl hUnready
    | completed => exact iff_of_false (by simp) hUnfinished
  · rw [if_neg (mt hAny.mp hUnready)]
    by_cases hFinished : ∀ node ∈ nodes, pods.Finished node
    · rw [if_pos (hAll.mpr hFinished)]
      cases readiness with
      | ready =>
          refine iff_of_false (by simp) ?_
          rintro ⟨-, node, hNode, hNot⟩
          exact hNot (hFinished node hNode)
      | notReady => exact iff_of_false (by simp) hUnready
      | completed => exact iff_of_true rfl hFinished
    · rw [if_neg (mt hAll.mp hFinished)]
      cases readiness with
      | ready =>
          refine iff_of_true rfl ⟨?_, ?_⟩
          · intro node hNode hNot
            exact hUnready ⟨node, hNode, hNot⟩
          · simpa using hFinished
      | notReady => exact iff_of_false (by simp) hUnready
      | completed => exact iff_of_false (by simp) hFinished

/- The check of the nodes comes to what it is to come to. -/
theorem judges_readiness
    {σ : Type}
    (pods : NodePods)
    (nodes : List Node)
    (span : Option Span)
    (w : World σ) :
    pods.Judges nodes
      ((pods.readiness nodes span).run w).1 := by
  rw [run_readiness]
  refine
    { empty := ?_
      offended := ?_
      spotless := ?_ }
  · intro hNone
    rw [if_pos hNone]
  · intro before node after failure hSplit hBefore hOffends
    have hSome : nodes ≠ [] := by simp [hSplit]
    rw [if_neg hSome,
      offence?_eq_some_iff.mpr
        ⟨before, node, after, hSplit, hBefore, hOffends⟩]
  · intro hSome hSpotless
    rw [if_neg hSome, offence?_eq_none_iff.mpr hSpotless]
    exact ⟨_, rfl, ofFindings_eq_iff⟩

/- A list of nodes offends nowhere or somewhere first. -/
theorem spotless_or_offended
    (pods : NodePods)
    (nodes : List Node) :
    pods.Spotless nodes ∨
      ∃ before node after failure,
        nodes = before ++ node :: after ∧
        pods.Spotless before ∧
        pods.Offends node failure := by
  cases hFirst : pods.offence? nodes with
  | none => exact .inl (offence?_eq_none_iff.mp hFirst)
  | some failure =>
      rcases offence?_eq_some_iff.mp hFirst with
        ⟨before, node, after, hSplit⟩
      exact .inr ⟨before, node, after, failure, hSplit⟩

namespace Judges

variable {outcome : Except Failure Readiness}

theorem eq_ok_iff
    (h : pods.Judges nodes outcome)
    {readiness : Readiness} :
    outcome = .ok readiness ↔
      nodes ≠ [] ∧ pods.Spotless nodes ∧
        pods.AddsUpTo nodes readiness := by
  by_cases hNone : nodes = []
  · simp [h.empty hNone, hNone]
  · rcases pods.spotless_or_offended nodes with
      hSpotless | ⟨before, node, after, failure, hSplit,
        hBefore, hOffends⟩
    · rcases h.spotless hNone hSpotless with
        ⟨found, rfl, hFound⟩
      simp [hNone, hSpotless, hFound]
    · have hNot : ¬ pods.Spotless nodes := by
        intro hSpotless
        have hNode : node ∈ nodes := by simp [hSplit]
        exact hSpotless node hNode failure hOffends
      simp [h.offended before node after failure hSplit
        hBefore hOffends, hNot]

theorem eq_error_iff
    (h : pods.Judges nodes outcome)
    {failure : Failure} :
    outcome = .error failure ↔
      (nodes = [] ∧
        failure =
          .notFound
            ("no nodes to check " ++ toString pods.size ++
              " pods against")) ∨
      ∃ before node after,
        nodes = before ++ node :: after ∧
        pods.Spotless before ∧
        pods.Offends node failure := by
  constructor
  · intro hFailed
    by_cases hNone : nodes = []
    · rw [h.empty hNone] at hFailed
      cases hFailed
      exact .inl ⟨hNone, rfl⟩
    · rcases pods.spotless_or_offended nodes with
        hSpotless | ⟨before, node, after, first, hSplit,
          hBefore, hOffends⟩
      · rcases h.spotless hNone hSpotless with ⟨_, hFound, -⟩
        rw [hFound] at hFailed
        cases hFailed
      · rw [h.offended before node after first hSplit hBefore
          hOffends] at hFailed
        cases hFailed
        exact .inr ⟨before, node, after, hSplit, hBefore,
          hOffends⟩
  · rintro (⟨hNone, rfl⟩ |
      ⟨before, node, after, hSplit, hBefore, hOffends⟩)
    · exact h.empty hNone
    · exact h.offended before node after failure hSplit
        hBefore hOffends

end Judges

end NodePods

end Redeploy

------------------------------------------------------------
-- Order and Other Nodes
------------------------------------------------------------

namespace Redeploy

namespace NodePods

variable {pods pods' : NodePods}
variable {nodes nodes' : List Node}

theorem Spotless.perm
    (h : pods.Spotless nodes)
    (hPerm : nodes.Perm nodes') :
    pods.Spotless nodes' := by
  intro node hNode
  exact h node (hPerm.mem_iff.mpr hNode)

theorem AddsUpTo.perm
    {readiness : Readiness}
    (h : pods.AddsUpTo nodes readiness)
    (hPerm : nodes.Perm nodes') :
    pods.AddsUpTo nodes' readiness := by
  cases readiness with
  | ready =>
      rcases h with ⟨hNone, node, hNode, hNot⟩
      refine ⟨?_, node, hPerm.mem_iff.mp hNode, hNot⟩
      intro other hOther
      exact hNone other (hPerm.mem_iff.mpr hOther)
  | notReady =>
      rcases h with ⟨node, hNode, hUnready⟩
      exact ⟨node, hPerm.mem_iff.mp hNode, hUnready⟩
  | completed =>
      intro node hNode
      exact h node (hPerm.mem_iff.mpr hNode)

/- Whether two sets have the same pods on some nodes. -/
def AgreeOn
    (nodes : List Node)
    (pods pods' : NodePods) : Prop :=
  ∀ node ∈ nodes,
    pods.get? node.name = pods'.get? node.name

variable {σ : Type}

/- Only the pod of a node matters to what is found there. -/
theorem inspect_eq_of_get?_eq
    {node : Node}
    (hPod :
      pods.get? node.name = pods'.get? node.name)
    (span : Option Span) :
    (pods.inspect span node : Act Failure σ Finding) =
      pods'.inspect span node := by
  have hFound :
      pods.finding node.name = pods'.finding node.name := by
    unfold finding
    rw [hPod]
  unfold inspect
  rw [hFound]

theorem AgreeOn.mapM_inspect
    (h : AgreeOn nodes pods pods')
    (span : Option Span) :
    (nodes.mapM (pods.inspect span) :
        Act Failure σ (List Finding)) =
      nodes.mapM (pods'.inspect span) := by
  induction nodes with
  | nil => rfl
  | cons node rest ih =>
      have hFirst := h node List.mem_cons_self
      have hRest : AgreeOn rest pods pods' := by
        intro other hOther
        exact h other (List.mem_cons_of_mem node hOther)
      rw [List.mapM_cons, List.mapM_cons,
        inspect_eq_of_get?_eq hFirst, ih hRest]

/- Pods on other nodes do not matter to a check. -/
theorem AgreeOn.readiness
    (h : AgreeOn nodes pods pods')
    (hSome : nodes ≠ [])
    (span : Option Span) :
    (pods.readiness nodes span :
        Act Failure σ Readiness) =
      pods'.readiness nodes span := by
  have hNot : ¬ nodes.isEmpty = true := by simpa
  unfold NodePods.readiness
  rw [if_neg hNot, if_neg hNot, h.mapM_inspect]

end NodePods

end Redeploy

------------------------------------------------------------
-- Exactness
------------------------------------------------------------

namespace Redeploy

namespace NodePods

variable {σ : Type}

/- Whether the first node that offends has a pod. -/
def StalledFirst
    (pods : NodePods)
    (nodes : List Node) : Prop :=
  ∃ before node after pod,
    nodes = before ++ node :: after ∧
    pods.Spotless before ∧
    pods.get? node.name = some pod ∧
    pod.Stalled

theorem Judges.eq_compareFailed_iff
    {pods : NodePods}
    {nodes : List Node}
    {outcome : Except Failure Readiness}
    (h : pods.Judges nodes outcome) :
    (∃ message,
        outcome = .error (.compareFailed message)) ↔
      pods.StalledFirst nodes := by
  constructor
  · rintro ⟨message, hFailed⟩
    rcases h.eq_error_iff.mp hFailed with
      ⟨-, hOther⟩ |
        ⟨before, node, after, hSplit, hBefore, hOffends⟩
    · cases hOther
    · cases hOffends with
      | stalled hPod hStalled =>
          exact ⟨before, node, after, _, hSplit, hBefore,
            hPod, hStalled⟩
  · rintro ⟨before, node, after, pod, hSplit, hBefore, hPod,
      hStalled⟩
    exact ⟨_, h.offended before node after _ hSplit hBefore
      (.stalled hPod hStalled)⟩

theorem run_requireUp
    (pods : NodePods)
    (nodes : List Node)
    (span : Option Span)
    (w : World σ) :
    ((pods.requireUp nodes span).run w).1 =
      match ((pods.readiness nodes span).run w).1 with
      | .error failure => .error failure
      | .ok .notReady =>
          .error (.compareFailed
            "pods are running but not ready yet")
      | .ok .ready | .ok .completed => .ok () := by
  unfold requireUp
  rw [Act.run_bind]
  cases (pods.readiness nodes span).run w with
  | mk outcome after =>
      cases outcome with
      | error failure => rfl
      | ok readiness => cases readiness <;> rfl

/-
  Every expected node is looked at.  The first one without a
  pod, or with a pod that neither runs nor has completed,
  fails the check; without one the check succeeds, in
  whatever order the nodes are listed and whatever pods there
  are elsewhere.  Pods are up if they are ready or have
  completed.
-/
theorem readiness_exact
    (pods : NodePods)
    (nodes : List Node)
    (span : Option Span)
    (w : World σ) :
    ∃ outcome,
      ((pods.readiness nodes span).run w).1 = outcome ∧
      pods.Judges nodes outcome ∧
      (∀ nodes', nodes.Perm nodes' →
        ∀ readiness, outcome = .ok readiness ↔
          ((pods.readiness nodes' span).run w).1 =
            .ok readiness) ∧
      (∀ pods', AgreeOn nodes pods pods' →
        nodes ≠ [] →
        (pods'.readiness nodes span).run w =
          (pods.readiness nodes span).run w) ∧
      (((pods.requireUp nodes span).run w).1 = .ok () ↔
        outcome = .ok .ready ∨ outcome = .ok .completed) ∧
      ((∃ message,
          ((pods.requireUp nodes span).run w).1 =
            .error (.compareFailed message)) ↔
        outcome = .ok .notReady ∨
          pods.StalledFirst nodes) := by
  have hJudges := pods.judges_readiness nodes span w
  refine ⟨_, rfl, hJudges, ?_, ?_, ?_, ?_⟩
  · intro nodes' hPerm readiness
    have hOther := pods.judges_readiness nodes' span w
    rw [hJudges.eq_ok_iff, hOther.eq_ok_iff]
    constructor
    · rintro ⟨hSome, hSpotless, hAdds⟩
      refine ⟨?_, hSpotless.perm hPerm, hAdds.perm hPerm⟩
      rintro rfl
      exact hSome hPerm.eq_nil
    · rintro ⟨hSome, hSpotless, hAdds⟩
      refine ⟨?_, hSpotless.perm hPerm.symm,
        hAdds.perm hPerm.symm⟩
      rintro rfl
      exact hSome hPerm.symm.eq_nil
  · intro pods' hAgree hSome
    rw [hAgree.readiness hSome]
  · rw [run_requireUp]
    cases ((pods.readiness nodes span).run w).1 with
    | error failure => simp
    | ok readiness => cases readiness <;> simp
  · rw [← hJudges.eq_compareFailed_iff, run_requireUp]
    cases ((pods.readiness nodes span).run w).1 with
    | error failure => simp
    | ok readiness => cases readiness <;> simp

end NodePods

end Redeploy
