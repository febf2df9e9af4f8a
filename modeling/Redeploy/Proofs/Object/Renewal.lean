import Redeploy.Cluster

/-
  Jobs that are created anew.

  Key definitions include:
    * `Labels.Sheds`
    * `JobSpec.Renews`
    * `Job.Renews`
    * `Job.Sheds`

  Main results:
    * `Job.renews_versioned`
    * `Job.Renews.eq_of_renews`
    * `Job.sheds_iff`
    * `Job.forCreate_forCreate`

  A renewed job is the wanted one as far as its user can say:
  what ties it to an earlier run is gone, and the server has
  given it a uid and a version.  Nothing but these two can
  differ between two jobs that renew the same one: what is
  said of a record always takes in its rest.
-/

------------------------------------------------------------
-- Labels
------------------------------------------------------------

namespace Redeploy

/- Whether labels are earlier ones without the two by which
   a running job marks its pods. -/
def Labels.Sheds
    (before after : Labels) : Prop :=
  ∀ key,
    after.get? key =
      if key = "controller-uid" ∨
          key = "batch.kubernetes.io/controller-uid" then
        none
      else before.get? key

theorem Labels.sheds_withoutController
    (labels : Labels) :
    labels.Sheds labels.withoutController := by
  intro key
  have hErased :
      labels.withoutController =
        (labels.erase "controller-uid").erase
          "batch.kubernetes.io/controller-uid" :=
    rfl
  rw [hErased, Table.get?_erase, Table.get?_erase]
  by_cases hOld : key = "controller-uid"
  · simp [hOld]
  · by_cases hNew :
        key = "batch.kubernetes.io/controller-uid"
    · simp [hNew]
    · simp [hOld, hNew]

/- What may be missing changes where it is there. -/
theorem rel_map_of_forall
    {α β : Type}
    {R : α → β → Prop}
    {f : α → β}
    (h : ∀ a, R a (f a))
    (value : Option α) :
    Option.Rel R value (value.map f) := by
  cases value with
  | none => exact .none
  | some a => exact .some (h a)

end Redeploy

------------------------------------------------------------
-- Jobs
------------------------------------------------------------

namespace Redeploy

/- Whether a selector is an earlier one whose labels have
   been shed. -/
structure LabelSelector.Sheds
    (before after : LabelSelector) : Prop where
  matchLabels :
    Option.Rel Labels.Sheds before.matchLabels
      after.matchLabels
  others :
    after = { before with matchLabels := after.matchLabels }

/- Whether the metadata of a template is an earlier one whose
   labels have been shed. -/
structure Metadata.Sheds
    (before after : Metadata) : Prop where
  labels :
    Option.Rel Labels.Sheds before.labels after.labels
  others : after = { before with labels := after.labels }

/- Whether a template is an earlier one whose metadata has
   been shed. -/
structure PodTemplate.Sheds
    (before after : PodTemplate) : Prop where
  metadata :
    Option.Rel Metadata.Sheds before.metadata after.metadata
  others :
    after = { before with metadata := after.metadata }

/- Whether a spec asks for what a wanted one asks for, and no
   longer for the pods of one run. -/
structure JobSpec.Renews
    (wanted stored : JobSpec) : Prop where
  selector :
    Option.Rel LabelSelector.Sheds
      wanted.selector stored.selector
  template : wanted.template.Sheds stored.template
  others :
    stored =
      { wanted with
        selector := stored.selector
        template := stored.template }

/- Whether a job is a wanted one as a server stores it anew,
   in a namespace and under a uid and a version. -/
structure Job.Renews
    (wanted stored : Job)
    (ns uid version : String) : Prop where
  metadata :
    stored.metadata =
      { wanted.metadata with
        ns := some ns
        uid := some uid
        resourceVersion := some version
        selfLink := none }
  spec :
    Option.Rel JobSpec.Renews wanted.spec stored.spec
  status : stored.status = wanted.status

theorem LabelSelector.sheds_withoutController
    (selector : LabelSelector) :
    selector.Sheds selector.withoutController where
  matchLabels :=
    rel_map_of_forall Labels.sheds_withoutController _
  others := rfl

theorem Metadata.sheds_withoutController
    (m : Metadata) :
    m.Sheds m.withoutController where
  labels := rel_map_of_forall Labels.sheds_withoutController _
  others := rfl

theorem PodTemplate.sheds_withoutController
    (template : PodTemplate) :
    template.Sheds template.withoutController where
  metadata :=
    rel_map_of_forall Metadata.sheds_withoutController _
  others := rfl

theorem JobSpec.renews_withoutController
    (spec : JobSpec) :
    spec.Renews spec.withoutController where
  selector :=
    rel_map_of_forall
      LabelSelector.sheds_withoutController _
  template := spec.template.sheds_withoutController
  others := rfl

/- A job is renewed by being submitted for creation in a
   namespace and then stored. -/
theorem Job.renews_versioned
    (job : Job)
    (ns uid : String)
    (version : Nat) :
    job.Renews
      (Cluster.versioned uid version
        (Job.forCreate
          { job with
            metadata := { job.metadata with ns := some ns } }))
      ns uid (toString version) where
  metadata := rfl
  spec := rel_map_of_forall JobSpec.renews_withoutController _
  status := rfl

end Redeploy

------------------------------------------------------------
-- Uniqueness
------------------------------------------------------------

namespace Redeploy

/- What may be missing is determined if it is determined
   where it is there. -/
theorem rel_unique
    {α β : Type}
    {R : α → β → Prop}
    {before : Option α}
    {after after' : Option β}
    (h : Option.Rel R before after)
    (h' : Option.Rel R before after')
    (hUnique : ∀ {a b b'}, R a b → R a b' → b = b') :
    after = after' := by
  cases h with
  | none =>
      cases h'
      rfl
  | some hSome =>
      cases h' with
      | some hSome' =>
          rw [hUnique hSome hSome']

theorem Labels.Sheds.unique
    {before after after' : Labels}
    (h : before.Sheds after)
    (h' : before.Sheds after') :
    after = after' := by
  apply Table.ext_get?
  intro key
  rw [h key, h' key]

theorem LabelSelector.Sheds.unique
    {before after after' : LabelSelector}
    (h : before.Sheds after)
    (h' : before.Sheds after') :
    after = after' := by
  have hLabels : after.matchLabels = after'.matchLabels :=
    rel_unique h.matchLabels h'.matchLabels
      Labels.Sheds.unique
  rw [h.others, h'.others, hLabels]

theorem Metadata.Sheds.unique
    {before after after' : Metadata}
    (h : before.Sheds after)
    (h' : before.Sheds after') :
    after = after' := by
  have hLabels : after.labels = after'.labels :=
    rel_unique h.labels h'.labels Labels.Sheds.unique
  rw [h.others, h'.others, hLabels]

theorem PodTemplate.Sheds.unique
    {before after after' : PodTemplate}
    (h : before.Sheds after)
    (h' : before.Sheds after') :
    after = after' := by
  have hMetadata : after.metadata = after'.metadata :=
    rel_unique h.metadata h'.metadata Metadata.Sheds.unique
  rw [h.others, h'.others, hMetadata]

theorem JobSpec.Renews.unique
    {wanted stored stored' : JobSpec}
    (h : wanted.Renews stored)
    (h' : wanted.Renews stored') :
    stored = stored' := by
  have hSelector : stored.selector = stored'.selector :=
    rel_unique h.selector h'.selector
      LabelSelector.Sheds.unique
  have hTemplate : stored.template = stored'.template :=
    h.template.unique h'.template
  rw [h.others, h'.others, hSelector, hTemplate]

/- Two jobs that renew one in the same namespace differ in
   their uids and versions at most. -/
theorem Job.Renews.eq_of_renews
    {wanted stored stored' : Job}
    {ns uid uid' version version' : String}
    (h : wanted.Renews stored ns uid version)
    (h' : wanted.Renews stored' ns uid' version') :
    stored' =
      { stored with
        metadata :=
          { stored.metadata with
            uid := some uid'
            resourceVersion := some version' } } := by
  have hSpec : stored'.spec = stored.spec :=
    rel_unique h'.spec h.spec JobSpec.Renews.unique
  cases stored'
  rw [Job.mk.injEq]
  refine ⟨?_, hSpec, h'.status.trans h.status.symm⟩
  rw [h.metadata]
  exact h'.metadata

end Redeploy

------------------------------------------------------------
-- Submission
------------------------------------------------------------

namespace Redeploy

/- Whether a job asks for what another one asks for, without
   all that a server has given to that one. -/
structure Job.Sheds
    (job sent : Job) : Prop where
  metadata :
    sent.metadata =
      { job.metadata with
        uid := none
        selfLink := none
        resourceVersion := none }
  spec : Option.Rel JobSpec.Renews job.spec sent.spec
  status : sent.status = job.status

/- What may be missing and was shed has nothing more to
   shed. -/
theorem rel_again
    {α : Type}
    {R : α → α → Prop}
    {before after : Option α}
    (h : Option.Rel R before after)
    (hAgain : ∀ {a b}, R a b → R b b) :
    Option.Rel R after after := by
  cases h with
  | none => exact .none
  | some hSome => exact .some (hAgain hSome)

theorem Labels.Sheds.again
    {before after : Labels}
    (h : before.Sheds after) :
    after.Sheds after := by
  intro key
  have hKey := h key
  split
  next hController => rw [hKey, if_pos hController]
  next => rfl

theorem LabelSelector.Sheds.again
    {before after : LabelSelector}
    (h : before.Sheds after) :
    after.Sheds after where
  matchLabels := rel_again h.matchLabels Labels.Sheds.again
  others := rfl

theorem Metadata.Sheds.again
    {before after : Metadata}
    (h : before.Sheds after) :
    after.Sheds after where
  labels := rel_again h.labels Labels.Sheds.again
  others := rfl

theorem PodTemplate.Sheds.again
    {before after : PodTemplate}
    (h : before.Sheds after) :
    after.Sheds after where
  metadata := rel_again h.metadata Metadata.Sheds.again
  others := rfl

theorem JobSpec.Renews.again
    {wanted stored : JobSpec}
    (h : wanted.Renews stored) :
    stored.Renews stored where
  selector := rel_again h.selector LabelSelector.Sheds.again
  template := h.template.again
  others := rfl

theorem Job.Sheds.again
    {job sent : Job}
    (h : job.Sheds sent) :
    sent.Sheds sent where
  metadata := by rw [h.metadata]
  spec := rel_again h.spec JobSpec.Renews.again
  status := rfl

theorem Job.sheds_forCreate
    (job : Job) :
    job.Sheds job.forCreate where
  metadata := rfl
  spec := rel_map_of_forall JobSpec.renews_withoutController _
  status := rfl

/- Of all jobs, exactly the one that is submitted for a job is
   that job without what a server gave to it. -/
theorem Job.sheds_iff
    {job sent : Job} :
    job.Sheds sent ↔ sent = job.forCreate := by
  constructor
  · intro h
    have hSpec : sent.spec = job.forCreate.spec :=
      rel_unique h.spec job.sheds_forCreate.spec
        JobSpec.Renews.unique
    cases sent
    rw [Job.mk.injEq]
    exact ⟨h.metadata, hSpec, h.status⟩
  · rintro rfl
    exact job.sheds_forCreate

theorem Job.forCreate_forCreate
    (job : Job) :
    job.forCreate.forCreate = job.forCreate :=
  (Job.sheds_iff.mp job.sheds_forCreate.again).symm

end Redeploy
