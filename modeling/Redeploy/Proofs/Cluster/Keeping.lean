import Redeploy.Proofs.Cluster.Lag

/-
  How long a stored job is found.

  Key definitions include:
    * `Cluster.Puts`
    * `Cluster.LeftAlone`
    * `Cluster.Keeps`

  Main results:
    * `Cluster.Keeps.move`
    * `Cluster.Keeps.run`
    * `Cluster.puts_found`

  A job that is stored is found, as it was stored, for as
  long as no other one is stored in its place and it is not
  deleted.  There is one exception: a job that is set up in
  the place of one that is still leaving takes over the reads
  that the other one had left, and goes with them.
-/

------------------------------------------------------------
-- Storing
------------------------------------------------------------

namespace Redeploy

namespace Cluster

/- Whether a move stores a job under a key, set up or
   created. -/
def Puts
    (key : ObjectKey)
    (stored : Job)
    (c : Cluster) : Move → Prop
  | .storeJob job =>
      job.key = key ∧ (c.storeJob job).1 = stored
  | .createJob job =>
      job.key = key ∧ (Cluster.createJob job c).1 = .ok stored
  | _ => False

/- Whether no job is stored under a key along some moves, and
   none is deleted there. -/
def LeftAlone
    (key : ObjectKey) :
    Cluster → List Move → Prop
  | _, [] => True
  | c, move :: moves =>
      (∀ stored, ¬ c.Puts key stored move) ∧
        ¬ c.Deletes key move ∧
        LeftAlone key (c.move move) moves

variable {c : Cluster}
variable {key : ObjectKey}
variable {stored : Job}

theorem not_stores_of_not_puts
    {move : Move}
    (h : ∀ stored, ¬ c.Puts key stored move) :
    ¬ move.Stores key := by
  intro hStores
  cases move with
  | storeJob job => exact h _ ⟨hStores, rfl⟩
  | _ => exact hStores

theorem LeftAlone.not_stores
    {moves : List Move}
    (h : LeftAlone key c moves) :
    ∀ move ∈ moves, ¬ move.Stores key := by
  induction moves generalizing c with
  | nil => simp
  | cons move moves ih =>
      rcases h with ⟨hPuts, -, hRest⟩
      intro next hNext
      rcases List.mem_cons.mp hNext with rfl | hLater
      · exact not_stores_of_not_puts hPuts
      · exact ih hRest next hLater

/- What is stored is there. -/
theorem Puts.there
    {move : Move}
    (h : c.Puts key stored move) :
    (c.move move).jobs.get? key = some stored := by
  cases move with
  | storeJob job =>
      rcases h with ⟨rfl, rfl⟩
      exact Table.get?_insert_self _ _ _
  | createJob job =>
      rcases h with ⟨rfl, hCreated⟩
      have hRun :
          Cluster.createJob job c =
            (.ok stored, c.move (.createJob job)) :=
        Prod.ext hCreated rfl
      rcases createJob_cases hRun with
        ⟨_, _, hAnswer, _⟩ | ⟨_, _, hAnswer, _⟩ |
          ⟨_, _, _, hAnswer, _⟩ | ⟨_, _, hAnswer, hAfter⟩
      · cases hAnswer
      · cases hAnswer
      · cases hAnswer
      · cases hAnswer
        rw [hAfter]
        exact Table.get?_insert_self _ _ _
  | _ => cases h

/- To create a job takes that no other one is leaving. -/
theorem Puts.created_staying
    {job : Job}
    (h : c.Puts key stored (.createJob job))
    (hSound : c.Sound) :
    (c.move (.createJob job)).terminating.get? key =
      none := by
  rcases h with ⟨rfl, hCreated⟩
  have hRun :
      Cluster.createJob job c =
        (.ok stored, c.move (.createJob job)) :=
    Prod.ext hCreated rfl
  rcases createJob_cases hRun with
    ⟨_, _, hAnswer, _⟩ | ⟨_, _, hAnswer, _⟩ |
      ⟨_, _, _, hAnswer, _⟩ | ⟨_, hAbsent, _, hAfter⟩
  · cases hAnswer
  · cases hAnswer
  · cases hAnswer
  · rw [hAfter]
    apply Table.contains_eq_false_iff.mp
    apply Bool.eq_false_iff.mpr
    intro hTerminating
    have hStored :=
      ((within_submitted c job).sound
        hSound).terminating_stored job.key hTerminating
    rw [hAbsent] at hStored
    cases hStored

end Cluster

end Redeploy

------------------------------------------------------------
-- Keeping
------------------------------------------------------------

namespace Redeploy

namespace Cluster

/- Whether a job is there and is not leaving. -/
structure Keeps
    (c : Cluster)
    (key : ObjectKey)
    (stored : Job) : Prop where
  staying : c.terminating.get? key = none
  there : c.jobs.get? key = some stored

variable {c c' : Cluster}
variable {key : ObjectKey}
variable {stored : Job}

theorem Keeps.congr
    (h : c.Keeps key stored)
    (hSame : SameAt key c c') :
    c'.Keeps key stored where
  staying := hSame.terminating.trans h.staying
  there := hSame.jobs.trans h.there

/- To read a job that is not leaving takes nothing from
   it. -/
theorem Keeps.read
    (h : c.Keeps key stored) :
    (c.read key).Keeps key stored := by
  rw [read_of_staying h.staying]
  exact h

/- One who attempts to create the job finds it there. -/
theorem Keeps.submitted
    {job : Job}
    (h : c.Keeps key stored)
    (hKey : job.key = key) :
    (c.submitted job).Keeps key stored := by
  subst hKey
  exact Keeps.read (h.congr ⟨rfl, rfl⟩)

theorem Keeps.move_reads
    {move : Move}
    (h : c.Keeps key stored)
    (hReads : c.Reads key move) :
    (c.move move).Keeps key stored := by
  cases move with
  | getJob k =>
      rcases hReads with ⟨rfl, hPass⟩
      rw [Cluster.move, getJob_of_pass hPass]
      exact (h.congr (sameAt_heard _ c _)).read
  | createJob job =>
      rcases hReads with ⟨rfl, hPass⟩
      have hSubmitted :
          (c.submitted job).Keeps job.key stored :=
        h.submitted rfl
      rw [Cluster.move, createJob_of_stored hPass
        (Table.contains_iff.mpr ⟨stored, hSubmitted.there⟩)]
      exact hSubmitted
  | _ => cases hReads

/- No move takes a job away that does not delete it, and none
   replaces it that does not store another one. -/
theorem Keeps.move
    {move : Move}
    (h : c.Keeps key stored)
    (hPuts : ∀ other, ¬ c.Puts key other move)
    (hDeletes : ¬ c.Deletes key move) :
    (c.move move).Keeps key stored := by
  by_cases hReads : c.Reads key move
  · exact h.move_reads hReads
  · exact h.congr (sameAt_move hReads
      (not_stores_of_not_puts hPuts) hDeletes)

theorem Keeps.run
    {moves : List Move}
    (h : c.Keeps key stored)
    (hAlone : LeftAlone key c moves) :
    (moves.foldl Cluster.move c).Keeps key stored := by
  induction moves generalizing c with
  | nil => exact h
  | cons move moves ih =>
      rcases hAlone with ⟨hPuts, hDeletes, hRest⟩
      exact ih (h.move hPuts hDeletes) hRest

theorem Keeps.found
    (h : c.Keeps key stored)
    (hPass : c.failure? .getJob = none) :
    (getJob key c).1 = .ok stored := by
  rw [getJob_of_pass hPass, Cluster.found,
    (h.congr (sameAt_heard key c (.getJob key))).read.there]

end Cluster

end Redeploy

------------------------------------------------------------
-- Stored Jobs Are Found
------------------------------------------------------------

namespace Redeploy

namespace Cluster

variable {c : Cluster}
variable {key : ObjectKey}
variable {stored : Job}

/-
  A stored job that is left alone is found by every read,
  unless it was set up in the place of one that had reads
  left: those are then all that it is found by.
-/
theorem puts_found
    {move : Move}
    {later : List Move}
    (hReachable : c.Reachable)
    (hPuts : c.Puts key stored move)
    (hAlone : LeftAlone key (c.move move) later) :
    let d := later.foldl Cluster.move (c.move move)
    ((∀ job, move = .storeJob job →
        c.terminating.get? key = none) →
      d.failure? .getJob = none →
      (getJob key d).1 = .ok stored) ∧
    (∀ job left, move = .storeJob job →
      c.terminating.get? key = some left →
      d.LagsBy key stored
        (readsAlong key (c.move move) later) left) := by
  intro d
  refine ⟨?_, ?_⟩
  · intro hStaying hPass
    have hKeeps : (c.move move).Keeps key stored := by
      refine ⟨?_, hPuts.there⟩
      cases move with
      | storeJob job => exact hStaying job rfl
      | createJob job =>
          exact hPuts.created_staying hReachable.sound
      | _ => cases hPuts
    exact (hKeeps.run hAlone).found hPass
  · rintro job left rfl hLeft
    have hLeaves :
        (c.move (.storeJob job)).Leaves key stored left := by
      refine ⟨.lingering hLeft ?_, ?_⟩
      · exact Table.contains_iff.mpr ⟨stored, hPuts.there⟩
      · intro other hOther
        rw [hPuts.there] at hOther
        exact (Option.some.inj hOther).symm
    exact Leaves.lagsBy fun hReads =>
      hLeaves.run hAlone.not_stores hReads

/- A job that is created once the one before it is gone
   outlasts reads and a lag that is set later. -/
theorem puts_found_created :
    let key : ObjectKey := ⟨"a", "j"⟩
    let c :=
      [Move.storeJob (.bare key), .setDeletionLag 1,
        .deleteJob key none, .getJob key].foldl
        Cluster.move {}
    let d :=
      [Move.getJob key, .setDeletionLag 5].foldl
        Cluster.move (c.move (.createJob (.bare key)))
    (getJob key d).1 =
      .ok (versioned "generated-2" 2 (.bare key)) := by
  intro key c d
  have hReachable : c.Reachable := ⟨_, _, rfl⟩
  have hCreated :
      createJob (.bare key) c =
        (.ok ((c.submitted (.bare key)).storeJob
          (.bare key)).1, _) :=
    createJob_of_free (by decide +kernel)
      (by decide +kernel) rfl rfl
  have hStored :
      ((c.submitted (.bare key)).storeJob (.bare key)).1 =
        versioned "generated-2" 2 (.bare key) := by
    decide +kernel
  have hPuts :
      c.Puts key (versioned "generated-2" 2 (.bare key))
        (.createJob (.bare key)) :=
    ⟨rfl, hStored ▸ congrArg Prod.fst hCreated⟩
  have hAlone :
      LeftAlone key (c.move (.createJob (.bare key)))
        [.getJob key, .setDeletionLag 5] :=
    ⟨fun _ h => h, fun h => h,
      ⟨fun _ h => h, fun h => h, trivial⟩⟩
  have hPass : d.failure? .getJob = none := by
    decide +kernel
  exact (puts_found hReachable hPuts hAlone).1
    (fun _ h => by cases h) hPass

/- A job that is set up in the place of one that is leaving
   is lost, without having been deleted. -/
theorem puts_lost :
    ¬ ∀ (c : Cluster) (key : ObjectKey) (stored : Job)
        (move : Move) (later : List Move),
      c.Reachable → c.Puts key stored move →
      LeftAlone key (c.move move) later →
      let d := later.foldl Cluster.move (c.move move)
      d.failure? .getJob = none →
      (getJob key d).1 = .ok stored := by
  intro hFound
  let key : ObjectKey := ⟨"a", "j"⟩
  let c :=
    [Move.storeJob (.bare key), .setDeletionLag 1,
      .deleteJob key none].foldl Cluster.move {}
  let d := (c.move (.storeJob (.bare key))).move (.getJob key)
  have hReachable : c.Reachable := ⟨_, _, rfl⟩
  have hAlone :
      LeftAlone key (c.move (.storeJob (.bare key)))
        [.getJob key] :=
    ⟨fun _ h => h, fun h => h, trivial⟩
  have hPass : d.failure? .getJob = none := by
    decide +kernel
  have hAnswer :=
    hFound c key _ (.storeJob (.bare key)) [.getJob key]
      hReachable ⟨rfl, rfl⟩ hAlone hPass
  have hGone :
      ((d.heard (.getJob key)).read key).jobs.get? key =
        none := by
    decide +kernel
  replace hAnswer : (getJob key d).1 = .ok _ := hAnswer
  rw [getJob_of_pass hPass, found, hGone] at hAnswer
  cases hAnswer

end Cluster

end Redeploy
