import Redeploy.Cluster
import Redeploy.Proofs.Table

/-
  What each request does to a cluster in memory.

  Key definitions include:
    * `Cluster.failure?`
    * `Cluster.heard`
    * `Cluster.leaving`
    * `Cluster.selected`, `Cluster.selectedNodes`

  Main results:
    * `Cluster.getJob_cases`, `Cluster.createJob_cases`
    * `Cluster.deleteJob_cases`
    * `Cluster.listPods_cases`, `Cluster.listNodes_cases`
    * `Cluster.deletePod_cases`
    * `Cluster.lists_selected`, `Cluster.lists_selectedNodes`
    * `Cluster.listPods_of_pass`, `Cluster.listNodes_of_pass`
    * `Cluster.getJob_of_pass`, `Cluster.createJob_of_stored`
    * `Cluster.createJob_of_free`
    * `Cluster.deleteJob_of_gone`

  For each request one theorem lists what it can be answered
  and where it leaves the cluster: it is recorded and uses up
  one scripted outcome in any case, and does nothing else if
  that outcome is a failure.
-/

------------------------------------------------------------
-- Records and Scripts
------------------------------------------------------------

namespace Redeploy

namespace Cluster

/- The failure that the next request of an operation is
   answered with, if one is scripted. -/
def failure?
    (c : Cluster)
    (operation : Operation) : Option Status :=
  (c.script operation).head?.join

/- A cluster that has recorded a call and used up the
   outcome scripted for it. -/
def heard
    (c : Cluster)
    (call : Call) : Cluster :=
  { c with calls := c.calls ++ [call] }.withScript
    call.operation (c.script call.operation).tail

section Fields

variable (c : Cluster) (call : Call)

@[simp]
theorem heard_jobs :
    (c.heard call).jobs = c.jobs :=
  rfl

@[simp]
theorem heard_calls :
    (c.heard call).calls = c.calls ++ [call] :=
  rfl

end Fields

/- Whether no failure is scripted for any request. -/
def Unhindered
    (c : Cluster) : Prop :=
  ∀ operation, ∀ outcome ∈ c.script operation,
    outcome = none

theorem Unhindered.failure?
    {c : Cluster}
    (h : c.Unhindered)
    (operation : Operation) :
    c.failure? operation = none := by
  unfold Cluster.failure?
  cases hScript : c.script operation with
  | nil => rfl
  | cons outcome rest =>
      have hNone : outcome = none :=
        h operation outcome (by simp [hScript])
      rw [hNone]
      rfl

theorem Unhindered.heard
    {c : Cluster}
    (h : c.Unhindered)
    (call : Call) :
    (c.heard call).Unhindered := by
  intro operation outcome hOutcome
  replace hOutcome :
      outcome ∈ (if operation = call.operation then
        (c.script call.operation).tail
        else c.script operation) := hOutcome
  split at hOutcome
  · exact h _ outcome (List.mem_of_mem_tail hOutcome)
  · exact h _ outcome hOutcome

theorem Unhindered.congr
    {c c' : Cluster}
    (h : c.Unhindered)
    (hScript : c'.script = c.script) :
    c'.Unhindered := by
  unfold Unhindered
  rw [hScript]
  exact h

/- Outcomes that are scripted already change nothing. -/
theorem withScript_self
    {c : Cluster}
    {operation : Operation}
    {outcomes : List (Option Status)}
    (h : c.script operation = outcomes) :
    c.withScript operation outcomes = c := by
  have hScript :
      (fun o => if o = operation then outcomes
        else c.script o) = c.script := by
    funext o
    split
    next hSame => rw [hSame, h]
    next => rfl
  unfold withScript
  rw [hScript]

/- Where nothing is scripted, a call is recorded and that is
   all. -/
theorem heard_of_script_eq_nil
    {c : Cluster}
    {call : Call}
    (h : c.script call.operation = []) :
    c.heard call = { c with calls := c.calls ++ [call] } := by
  unfold heard
  rw [h, List.tail_nil]
  exact withScript_self h

/- Whether a call is answered with the failure scripted for
   it, and otherwise only recorded. -/
def Refused
    {α : Type}
    (c : Cluster)
    (call : Call)
    (answer : Except ClientError α)
    (c' : Cluster) : Prop :=
  ∃ status, c.failure? call.operation = some status ∧
    answer = .error (.status status) ∧ c' = c.heard call

theorem Refused.not_unhindered
    {α : Type}
    {c c' : Cluster}
    {call : Call}
    {answer : Except ClientError α}
    (h : c.Refused call answer c') :
    ¬ c.Unhindered := by
  intro hUnhindered
  rcases h with ⟨status, hFailure, -⟩
  rw [hUnhindered.failure?] at hFailure
  cases hFailure

variable {α : Type}
variable {call : Call}
variable {serve : Cluster → Except ClientError α × Cluster}
variable {c c' : Cluster}
variable {answer : Except ClientError α}

/- A call is heard in any case, and served unless a failure
   is scripted for it. -/
theorem answer_cases
    (h : Cluster.answer call serve c = (answer, c')) :
    c.Refused call answer c' ∨
    (c.failure? call.operation = none ∧
      serve (c.heard call) = (answer, c')) := by
  unfold Cluster.answer at h
  dsimp only at h
  cases hScript : c.script call.operation with
  | nil =>
      rw [hScript] at h
      rw [heard_of_script_eq_nil hScript]
      exact .inr ⟨by simp [failure?, hScript], h⟩
  | cons outcome rest =>
      rw [hScript] at h
      have hHeard :
          c.heard call =
            { c with calls := c.calls ++ [call] }.withScript
              call.operation rest := by
        rw [heard, hScript, List.tail_cons]
      rw [hHeard]
      cases outcome with
      | none => exact .inr ⟨by simp [failure?, hScript], h⟩
      | some status =>
          cases h
          exact .inl ⟨status, by simp [failure?, hScript],
            rfl, hHeard.symm⟩

end Cluster

end Redeploy

------------------------------------------------------------
-- Reading Jobs
------------------------------------------------------------

namespace Redeploy

namespace Cluster

section Fields

variable (c : Cluster) (key : ObjectKey)

@[simp]
theorem read_script :
    (c.read key).script = c.script := by
  unfold read
  split <;> rfl

@[simp]
theorem read_calls :
    (c.read key).calls = c.calls := by
  unfold read
  split <;> rfl

end Fields

theorem read_of_staying
    {c : Cluster}
    {key : ObjectKey}
    (h : c.terminating.get? key = none) :
    c.read key = c := by
  unfold read
  rw [h]

theorem read_of_lingering
    {c : Cluster}
    {key : ObjectKey}
    {left : Nat}
    (h : c.terminating.get? key = some (left + 1)) :
    c.read key =
      { c with
        terminating := c.terminating.insert key left } := by
  unfold read
  rw [h]

theorem read_of_going
    {c : Cluster}
    {key : ObjectKey}
    (h : c.terminating.get? key = some 0) :
    c.read key =
      { c with
        terminating := c.terminating.erase key
        jobs := c.jobs.erase key } := by
  unfold read
  rw [h]

/- A cluster that has accepted the deletion of a job which
   can be read a number of times yet.  Without any lag the
   job is gone at once. -/
def leaving
    (key : ObjectKey)
    (left : Nat)
    (c : Cluster) : Cluster :=
  { c with
    jobs :=
      if c.deletionLag = 0 then c.jobs.erase key
      else c.jobs
    terminating :=
      if c.deletionLag = 0 then c.terminating
      else c.terminating.insert key left }

/- What is answered to one who asks for a job. -/
def found
    (key : ObjectKey)
    (c : Cluster) : Except ClientError Job :=
  match c.jobs.get? key with
  | some job => .ok job
  | none => .error (.status (.notFound Job.kind key.name))

variable {c c' : Cluster}
variable {key : ObjectKey}

theorem getJob_cases
    {answer : Except ClientError Job}
    (h : getJob key c = (answer, c')) :
    c.Refused (.getJob key) answer c' ∨
    (c.failure? .getJob = none ∧
      c' = (c.heard (.getJob key)).read key ∧
      answer = c'.found key) := by
  rcases answer_cases h with hRefused | ⟨hPass, hServe⟩
  · exact .inl hRefused
  · refine .inr ⟨hPass, ?_⟩
    dsimp only at hServe
    cases hFound :
        ((c.heard (.getJob key)).read key).jobs.get? key with
    | none =>
        rw [hFound] at hServe
        cases hServe
        simp [found, hFound]
    | some job =>
        rw [hFound] at hServe
        cases hServe
        simp [found, hFound]

end Cluster

end Redeploy

------------------------------------------------------------
-- Storing and Deleting Jobs
------------------------------------------------------------

namespace Redeploy

namespace Cluster

/- A cluster that has looked at a job to be created. -/
def submitted
    (job : Job)
    (c : Cluster) : Cluster :=
  { c.heard (.createJob job.key) with
    created := c.created ++ [job] }.read job.key

variable {c c' : Cluster}
variable {key : ObjectKey}

theorem createJob_cases
    {job : Job}
    {answer : Except ClientError Job}
    (h : createJob job c = (answer, c')) :
    c.Refused (.createJob job.key) answer c' ∨
    (c.failure? .createJob = none ∧
      (c.submitted job).jobs.contains job.key = true ∧
      answer = .error (.status
        (.alreadyExists Job.kind job.key.name)) ∧
      c' = c.submitted job) ∨
    (c.failure? .createJob = none ∧
      (c.submitted job).jobs.contains job.key = false ∧
      (job.metadata.uid.isSome ∨
        job.metadata.resourceVersion.isSome) ∧
      answer = .error (.status identityRejected) ∧
      c' = c.submitted job) ∨
    (c.failure? .createJob = none ∧
      (c.submitted job).jobs.contains job.key = false ∧
      answer = .ok ((c.submitted job).storeJob job).1 ∧
      c' = ((c.submitted job).storeJob job).2) := by
  rcases answer_cases h with hRefused | ⟨hPass, hServe⟩
  · exact .inl hRefused
  refine .inr ?_
  replace hServe :
      (if (c.submitted job).jobs.contains job.key then
        (.error (.status
          (.alreadyExists Job.kind job.key.name)),
          c.submitted job)
      else if job.metadata.uid.isSome ∨
          job.metadata.resourceVersion.isSome then
        (.error (.status identityRejected), c.submitted job)
      else
        (.ok ((c.submitted job).storeJob job).1,
          ((c.submitted job).storeJob job).2)) =
        (answer, c') := hServe
  split at hServe
  next hStored =>
    cases hServe
    exact .inl ⟨hPass, hStored, rfl, rfl⟩
  next hFree =>
    refine .inr ?_
    have hAbsent := Bool.not_eq_true _ ▸ hFree
    split at hServe
    next hKnown =>
      cases hServe
      exact .inl ⟨hPass, hAbsent, hKnown, rfl, rfl⟩
    next =>
      cases hServe
      exact .inr ⟨hPass, hAbsent, rfl, rfl⟩

theorem deleteJob_cases
    {propagation : Option Propagation}
    {answer : Except ClientError Unit}
    (h : deleteJob key propagation c = (answer, c')) :
    c.Refused (.deleteJob key propagation) answer c' ∨
    (c.failure? .deleteJob = none ∧
      (c.terminating.contains key = true ∨
        c.jobs.contains key = false) ∧
      answer = .error (.status
        (.notFound Job.kind key.name)) ∧
      c' = c.heard (.deleteJob key propagation)) ∨
    (c.failure? .deleteJob = none ∧
      c.terminating.get? key = none ∧
      c.jobs.contains key = true ∧
      answer = .ok () ∧
      c' = (c.heard (.deleteJob key propagation)).leaving
        key c.deletionLag) := by
  rcases answer_cases h with hRefused | ⟨hPass, hServe⟩
  · exact .inl hRefused
  refine .inr ?_
  split at hServe
  next hGone =>
    cases hServe
    exact .inl ⟨hPass, hGone, rfl, rfl⟩
  next hThere =>
    refine .inr ?_
    rcases not_or.mp hThere with ⟨hStaying, hStored⟩
    replace hStaying : c.terminating.get? key = none :=
      Table.contains_eq_false_iff.mp
        (Bool.not_eq_true _ ▸ hStaying)
    replace hStored : c.jobs.contains key = true :=
      Bool.not_eq_false _ ▸ hStored
    split at hServe
    next hLag =>
      cases hServe
      refine ⟨hPass, hStaying, hStored, rfl, ?_⟩
      unfold leaving
      rw [if_pos hLag, if_pos hLag]
    next hLag =>
      cases hServe
      refine ⟨hPass, hStaying, hStored, rfl, ?_⟩
      unfold leaving
      rw [if_neg hLag, if_neg hLag]
      rfl

end Cluster

end Redeploy

------------------------------------------------------------
-- Pods and Nodes
------------------------------------------------------------

namespace Redeploy

namespace Cluster

/- The pods of a namespace that a selector selects, by
   name. -/
def selected
    (ns selector : String)
    (c : Cluster) : List Pod :=
  (c.pods.toList.filter fun e =>
    e.1.ns == ns &&
      Selector.selects selector e.2.metadata.labels).map (·.2)

/- The nodes that a selector selects, by name. -/
def selectedNodes
    (selector : String)
    (c : Cluster) : List Node :=
  c.nodes.values.filter fun node =>
    Selector.selects selector node.metadata.labels

theorem lists_selected
    (ns selector : String)
    (c : Cluster) :
    c.pods.Lists
      (fun key pod =>
        key.ns = ns ∧
          Selector.selects selector pod.metadata.labels = true)
      (c.selected ns selector) := by
  apply Table.lists_filter
  intro key pod
  rw [Bool.and_eq_true, beq_iff_eq]

theorem lists_selectedNodes
    (selector : String)
    (c : Cluster) :
    c.nodes.Lists
      (fun _ node =>
        Selector.selects selector node.metadata.labels = true)
      (c.selectedNodes selector) := by
  rw [selectedNodes, Table.values, List.filter_map]
  apply Table.lists_filter
  intro _ node
  rfl

variable {c c' : Cluster}

theorem listPods_cases
    {ns selector : String}
    {answer : Except ClientError (List Pod)}
    (h : listPods ns selector c = (answer, c')) :
    c.Refused (.listPods ns selector) answer c' ∨
    (c.failure? .listPods = none ∧
      answer = .ok (c.selected ns selector) ∧
      c' = c.heard (.listPods ns selector)) := by
  rcases answer_cases h with hRefused | ⟨hPass, hServe⟩
  · exact .inl hRefused
  · cases hServe
    exact .inr ⟨hPass, rfl, rfl⟩

theorem listNodes_cases
    {selector : String}
    {answer : Except ClientError (List Node)}
    (h : listNodes selector c = (answer, c')) :
    c.Refused (.listNodes selector) answer c' ∨
    (c.failure? .listNodes = none ∧
      answer = .ok (c.selectedNodes selector) ∧
      c' = c.heard (.listNodes selector)) := by
  rcases answer_cases h with hRefused | ⟨hPass, hServe⟩
  · exact .inl hRefused
  · cases hServe
    exact .inr ⟨hPass, rfl, rfl⟩

theorem deletePod_cases
    {key : ObjectKey}
    {answer : Except ClientError Unit}
    (h : deletePod key c = (answer, c')) :
    c.Refused (.deletePod key) answer c' ∨
    (c.failure? .deletePod = none ∧
      (answer = .ok () ∨
        answer = .error (.status
          (.notFound Pod.kind key.name))) ∧
      c' =
        { c.heard (.deletePod key) with
          pods := c.pods.erase key }) := by
  rcases answer_cases h with hRefused | ⟨hPass, hServe⟩
  · exact .inl hRefused
  refine .inr ⟨hPass, ?_⟩
  split at hServe
  next =>
    cases hServe
    exact ⟨.inl rfl, rfl⟩
  next hGone =>
    cases hServe
    have hAbsent : c.pods.get? key = none :=
      Table.contains_eq_false_iff.mp
        (Bool.not_eq_true _ ▸ hGone)
    rw [Table.erase_of_absent hAbsent]
    exact ⟨.inr rfl, rfl⟩

end Cluster

end Redeploy

------------------------------------------------------------
-- Undisturbed Requests
------------------------------------------------------------

namespace Redeploy

namespace Cluster

variable {c : Cluster}
variable {key : ObjectKey}
variable {job : Job}

/- A call that no failure is scripted for is served. -/
theorem answer_of_pass
    {α : Type}
    {call : Call}
    {serve : Cluster → Except ClientError α × Cluster}
    (hPass : c.failure? call.operation = none) :
    Cluster.answer call serve c = serve (c.heard call) := by
  have hAnswer :
      Cluster.answer call serve c =
        ((Cluster.answer call serve c).1,
          (Cluster.answer call serve c).2) :=
    rfl
  rcases answer_cases hAnswer with
    ⟨status, hFailure, _⟩ | ⟨_, hServe⟩
  · rw [hPass] at hFailure
    cases hFailure
  · exact hServe.symm

/- A call that a failure is scripted for is only heard. -/
theorem answer_of_failure
    {α : Type}
    {call : Call}
    {serve : Cluster → Except ClientError α × Cluster}
    {status : Status}
    (hFailure : c.failure? call.operation = some status) :
    Cluster.answer call serve c =
      (.error (.status status), c.heard call) := by
  have hAnswer :
      Cluster.answer call serve c =
        ((Cluster.answer call serve c).1,
          (Cluster.answer call serve c).2) :=
    rfl
  rcases answer_cases hAnswer with
    ⟨status', hFailure', hError, hAfter⟩ | ⟨hPass, _⟩
  · rw [hFailure] at hFailure'
    cases hFailure'
    exact Prod.ext hError hAfter
  · rw [hFailure] at hPass
    cases hPass

theorem listPods_of_pass
    {ns selector : String}
    (hPass : c.failure? .listPods = none) :
    listPods ns selector c =
      (.ok (c.selected ns selector),
        c.heard (.listPods ns selector)) :=
  answer_of_pass hPass

theorem listNodes_of_pass
    {selector : String}
    (hPass : c.failure? .listNodes = none) :
    listNodes selector c =
      (.ok (c.selectedNodes selector),
        c.heard (.listNodes selector)) :=
  answer_of_pass hPass

theorem getJob_of_pass
    (hPass : c.failure? .getJob = none) :
    getJob key c =
      (((c.heard (.getJob key)).read key).found key,
        (c.heard (.getJob key)).read key) := by
  rw [getJob, answer_of_pass hPass, found]
  dsimp only
  cases ((c.heard (.getJob key)).read key).jobs.get? key <;>
    rfl

theorem createJob_of_stored
    (hPass : c.failure? .createJob = none)
    (hStored :
      (c.submitted job).jobs.contains job.key = true) :
    createJob job c =
      (.error (.status
        (.alreadyExists Job.kind job.key.name)),
        c.submitted job) := by
  rw [createJob, answer_of_pass hPass]
  exact if_pos hStored

theorem createJob_of_free
    (hPass : c.failure? .createJob = none)
    (hFree : (c.submitted job).jobs.get? job.key = none)
    (hUid : job.metadata.uid = none)
    (hVersion : job.metadata.resourceVersion = none) :
    createJob job c =
      (.ok ((c.submitted job).storeJob job).1,
        ((c.submitted job).storeJob job).2) := by
  have hAbsent :
      ¬ (c.submitted job).jobs.contains job.key = true := by
    rw [Table.contains_eq_false_iff.mpr hFree]
    exact Bool.false_ne_true
  have hUnknown :
      ¬ (job.metadata.uid.isSome = true ∨
        job.metadata.resourceVersion.isSome = true) := by
    rw [hUid, hVersion]
    simp
  rw [createJob, answer_of_pass hPass]
  exact (if_neg hAbsent).trans (if_neg hUnknown)

theorem deleteJob_of_gone
    {propagation : Option Propagation}
    (hPass : c.failure? .deleteJob = none)
    (hGone :
      c.terminating.contains key = true ∨
        c.jobs.contains key = false) :
    deleteJob key propagation c =
      (.error (.status (.notFound Job.kind key.name)),
        c.heard (.deleteJob key propagation)) := by
  rw [deleteJob, answer_of_pass hPass]
  exact if_pos hGone

end Cluster

end Redeploy
