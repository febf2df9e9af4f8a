import Redeploy.Proofs.Cluster.Reachable

/-
  What scripted outcomes do to requests.

  Key definitions include:
    * `Cluster.Request`, `Cluster.Request.send`
    * `Cluster.Blind`, `Cluster.Scripted`
    * `Cluster.Heeds`
    * `Cluster.takenAlong`

  Main results:
    * `Cluster.Request.scripted`
    * `Cluster.heeds`
    * `Cluster.taken_append_script`
    * `Cluster.script_exact`

  Every request is recorded.  It takes the oldest outcome
  that is pending for its own operation and sees none of the
  others.  A request that takes a failure is answered with it
  and has no other effect; any other one is served as if
  nothing was scripted.
-/

------------------------------------------------------------
-- Requests
------------------------------------------------------------

namespace Redeploy

namespace Cluster

inductive Request where
  | getJob (key : ObjectKey)
  | createJob (job : Job)
  | deleteJob
      (key : ObjectKey)
      (propagation : Option Propagation)
  | listPods (ns selector : String)
  | deletePod (key : ObjectKey)
  | listNodes (selector : String)

namespace Request

/- What a request asks for. -/
def Answer : Request → Type
  | .getJob _ => Job
  | .createJob _ => Job
  | .deleteJob _ _ => Unit
  | .listPods _ _ => List Pod
  | .deletePod _ => Unit
  | .listNodes _ => List Node

def send :
    (request : Request) →
      Cluster → Except ClientError request.Answer × Cluster
  | .getJob key => Cluster.getJob key
  | .createJob job => Cluster.createJob job
  | .deleteJob key propagation =>
      Cluster.deleteJob key propagation
  | .listPods ns selector => Cluster.listPods ns selector
  | .deletePod key => Cluster.deletePod key
  | .listNodes selector => Cluster.listNodes selector

/- What is recorded of a request. -/
def call : Request → Call
  | .getJob key => .getJob key
  | .createJob job => .createJob job.key
  | .deleteJob key propagation => .deleteJob key propagation
  | .listPods ns selector => .listPods ns selector
  | .deletePod key => .deletePod key
  | .listNodes selector => .listNodes selector

def operation
    (request : Request) : Operation :=
  request.call.operation

end Request

namespace Move

/- The request that a move makes, if it is no setup. -/
def request? : Move → Option Request
  | .getJob key => some (.getJob key)
  | .createJob job => some (.createJob job)
  | .deleteJob key propagation =>
      some (.deleteJob key propagation)
  | .listPods ns selector => some (.listPods ns selector)
  | .deletePod key => some (.deletePod key)
  | .listNodes selector => some (.listNodes selector)
  | _ => none

/- The outcomes that a move queues for an operation. -/
def queued
    (operation : Operation) : Move → List (Option Status)
  | .queueFailure o status =>
      if o = operation then [some status] else []
  | .queuePass o => if o = operation then [none] else []
  | _ => []

end Move

variable {move : Move}
variable {request : Request}

theorem move_of_request
    (h : move.request? = some request)
    (c : Cluster) :
    c.move move = (request.send c).2 := by
  cases move <;> cases h <;> rfl

/- No request queues anything. -/
theorem queued_of_request
    (h : move.request? = some request)
    (operation : Operation) :
    move.queued operation = [] := by
  cases move <;> first | rfl | cases h

end Cluster

end Redeploy

------------------------------------------------------------
-- Serving
------------------------------------------------------------

namespace Redeploy

namespace Cluster

/- A cluster with other records and another script. -/
def withRecord
    (calls : List Call)
    (script : Operation → List (Option Status))
    (c : Cluster) : Cluster :=
  { c with calls := calls, script := script }

/- A cluster for which nothing is scripted. -/
def unscripted
    (c : Cluster) : Cluster :=
  c.withRecord c.calls fun _ => []

/- Whether requests are served without regard to what is
   recorded and scripted. -/
def Blind
    {α : Type}
    (serve : Cluster → Except ClientError α × Cluster) :
    Prop :=
  ∀ (c : Cluster) (calls : List Call)
      (script : Operation → List (Option Status)),
    serve (c.withRecord calls script) =
      ((serve c).1, (serve c).2.withRecord calls script)

theorem read_withRecord
    (c : Cluster)
    (calls : List Call)
    (script : Operation → List (Option Status))
    (key : ObjectKey) :
    (c.withRecord calls script).read key =
      (c.read key).withRecord calls script := by
  unfold read withRecord
  dsimp only
  split <;> rfl

/- Whether a request is answered by its script, and without
   regard to it where that holds no failure. -/
def Scripted
    {α : Type}
    (call : Call)
    (send : Cluster → Except ClientError α × Cluster) :
    Prop :=
  ∃ serve : Cluster → Except ClientError α × Cluster,
    send = Cluster.answer call serve ∧ Blind serve

theorem scripted_getJob
    (key : ObjectKey) :
    Scripted (.getJob key) (Cluster.getJob key) := by
  refine ⟨_, rfl, fun c calls script => ?_⟩
  have hRead := read_withRecord c calls script key
  dsimp only [withRecord] at hRead ⊢
  rw [hRead]
  dsimp only
  split <;> rfl

theorem scripted_createJob
    (job : Job) :
    Scripted (.createJob job.key) (Cluster.createJob job) := by
  refine ⟨_, rfl, fun c calls script => ?_⟩
  have hRead :=
    read_withRecord
      { c with created := c.created ++ [job] }
      calls script job.key
  dsimp only [withRecord] at hRead ⊢
  rw [hRead]
  dsimp only
  split
  · rfl
  · split <;> rfl

theorem scripted_deleteJob
    (key : ObjectKey)
    (propagation : Option Propagation) :
    Scripted (.deleteJob key propagation)
      (Cluster.deleteJob key propagation) := by
  refine ⟨_, rfl, fun c calls script => ?_⟩
  dsimp only [withRecord]
  split
  · rfl
  · split <;> rfl

theorem scripted_deletePod
    (key : ObjectKey) :
    Scripted (.deletePod key) (Cluster.deletePod key) := by
  refine ⟨_, rfl, fun c calls script => ?_⟩
  dsimp only [withRecord]
  split <;> rfl

theorem scripted_listPods
    (ns selector : String) :
    Scripted (.listPods ns selector)
      (Cluster.listPods ns selector) :=
  ⟨_, rfl, fun _ _ _ => rfl⟩

theorem scripted_listNodes
    (selector : String) :
    Scripted (.listNodes selector)
      (Cluster.listNodes selector) :=
  ⟨_, rfl, fun _ _ _ => rfl⟩

/- Scripts and records are looked at before a request is
   served, and at no other time. -/
theorem Request.scripted
    (request : Request) :
    Scripted request.call request.send := by
  cases request with
  | getJob key => exact scripted_getJob key
  | createJob job => exact scripted_createJob job
  | deleteJob key propagation =>
      exact scripted_deleteJob key propagation
  | listPods ns selector =>
      exact scripted_listPods ns selector
  | deletePod key => exact scripted_deletePod key
  | listNodes selector => exact scripted_listNodes selector

end Cluster

end Redeploy

------------------------------------------------------------
-- Heeding the Script
------------------------------------------------------------

namespace Redeploy

namespace Cluster

/- How a request heeds the script of a cluster. -/
structure Heeds
    (c : Cluster)
    (request : Request) : Prop where
  recorded :
    (request.send c).2.calls = c.calls ++ [request.call]
  /- The oldest outcome of its own operation is used up, -/
  taken :
    ∀ operation,
      (request.send c).2.script operation =
        if operation = request.operation then
          (c.script operation).tail
        else c.script operation
  /- and a failure is all that comes of the request. -/
  refused :
    ∀ status,
      (c.script request.operation).head? =
        some (some status) →
      (request.send c).1 = .error (.status status) ∧
        (request.send c).2 =
          c.withRecord (request.send c).2.calls
            (request.send c).2.script
  /- If there is none, it is served as without a script. -/
  served :
    (∀ status,
      (c.script request.operation).head? ≠
        some (some status)) →
      (request.send c).1 = (request.send c.unscripted).1 ∧
        (request.send c).2 =
          (request.send c.unscripted).2.withRecord
            (request.send c).2.calls
            (request.send c).2.script

variable {c : Cluster}
variable {α : Type}
variable {call : Call}
variable {send : Cluster → Except ClientError α × Cluster}

theorem Scripted.send_of_failure
    {status : Status}
    (h : Scripted call send)
    (hFailure : c.failure? call.operation = some status) :
    send c = (.error (.status status), c.heard call) := by
  rcases h with ⟨serve, rfl, -⟩
  exact answer_of_failure hFailure

/- What is scripted for others, and what was recorded
   before, makes no difference. -/
theorem Scripted.send_of_pass
    (h : Scripted call send)
    (hPass : c.failure? call.operation = none) :
    send c =
      ((send c.unscripted).1,
        (send c.unscripted).2.withRecord
          (c.heard call).calls (c.heard call).script) := by
  rcases h with ⟨serve, rfl, hBlind⟩
  have hHeard :
      c.heard call =
        c.withRecord (c.heard call).calls
          (c.heard call).script :=
    rfl
  have hUnscripted :
      c.unscripted.heard call =
        c.withRecord (c.unscripted.heard call).calls
          (c.unscripted.heard call).script :=
    rfl
  have hServe :
      Cluster.answer call serve c =
        ((serve c).1, (serve c).2.withRecord
          (c.heard call).calls (c.heard call).script) := by
    rw [answer_of_pass hPass, hHeard]
    exact hBlind c _ _
  have hServeUnscripted :
      Cluster.answer call serve c.unscripted =
        ((serve c).1, (serve c).2.withRecord
          (c.unscripted.heard call).calls
          (c.unscripted.heard call).script) := by
    rw [answer_of_pass rfl, hUnscripted]
    exact hBlind c _ _
  rw [hServe, hServeUnscripted]
  rfl

/- A request is heard, whatever comes of it. -/
theorem Scripted.send_heard
    (h : Scripted call send)
    (c : Cluster) :
    (send c).2.calls = (c.heard call).calls ∧
      (send c).2.script = (c.heard call).script := by
  cases hFailure : c.failure? call.operation with
  | none =>
      rw [h.send_of_pass hFailure]
      exact ⟨rfl, rfl⟩
  | some status =>
      rw [h.send_of_failure hFailure]
      exact ⟨rfl, rfl⟩

theorem heeds
    (c : Cluster)
    (request : Request) :
    c.Heeds request := by
  rcases request.scripted.send_heard c with
    ⟨hCalls, hScript⟩
  refine
    { recorded := hCalls
      taken := ?_
      refused := ?_
      served := ?_ }
  · intro operation
    rw [hScript]
    change (if operation = request.operation then
      (c.script request.operation).tail
      else c.script operation) = _
    split
    next hSame => rw [hSame]
    next => rfl
  · intro status hNext
    have hFailure :
        c.failure? request.call.operation = some status :=
      Option.join_eq_some_iff.mpr hNext
    rw [request.scripted.send_of_failure hFailure]
    exact ⟨rfl, rfl⟩
  · intro hNext
    have hPass : c.failure? request.call.operation = none := by
      apply Option.eq_none_iff_forall_ne_some.mpr
      intro status hFailure
      exact hNext status (Option.join_eq_some_iff.mp hFailure)
    rw [request.scripted.send_of_pass hPass]
    exact ⟨rfl, rfl⟩

end Cluster

end Redeploy

------------------------------------------------------------
-- First In, First Out
------------------------------------------------------------

namespace Redeploy

namespace Cluster

/- The outcomes that the requests of one operation take along
   some moves, from those that are pending for it. -/
def takenAlong
    (operation : Operation) :
    List (Option Status) → List Move → List (Option Status)
  | _, [] => []
  | pending, move :: moves =>
      if move.request?.map (·.operation) = some operation then
        pending.head?.toList ++
          takenAlong operation pending.tail moves
      else
        takenAlong operation
          (pending ++ move.queued operation) moves

/- To add to the outcomes of one operation leaves those of
   the others as they are. -/
theorem script_queue
    (c : Cluster)
    (o operation : Operation)
    (outcome : Option Status) :
    (c.withScript o (c.script o ++ [outcome])).script
        operation =
      c.script operation ++
        if o = operation then [outcome] else [] := by
  change (if operation = o then c.script o ++ [outcome]
    else c.script operation) = _
  by_cases hSame : o = operation
  · rw [if_pos hSame.symm, if_pos hSame, hSame]
  · rw [if_neg (Ne.symm hSame), if_neg hSame,
      List.append_nil]

/- A request takes the first outcome of its operation; any
   other move adds at the end what it queues. -/
theorem script_move
    (c : Cluster)
    (move : Move)
    (operation : Operation) :
    (c.move move).script operation =
      if move.request?.map (·.operation) =
          some operation then
        (c.script operation).tail
      else c.script operation ++ move.queued operation := by
  cases hRequest : move.request? with
  | some request =>
      rw [move_of_request hRequest,
        queued_of_request hRequest, List.append_nil,
        (c.heeds request).taken]
      simp [eq_comm]
  | none =>
      have hQueued :
          (c.move move).script operation =
            c.script operation ++ move.queued operation := by
        cases move with
        | queueFailure o status =>
            exact script_queue c o operation (some status)
        | queuePass o =>
            exact script_queue c o operation none
        | storeJob job => exact (List.append_nil _).symm
        | storePod pod => exact (List.append_nil _).symm
        | storeNode node => exact (List.append_nil _).symm
        | setDeletionLag reads =>
            exact (List.append_nil _).symm
        | _ => cases hRequest
      simpa using hQueued

theorem calls_move
    (c : Cluster)
    (move : Move) :
    (c.move move).calls =
      c.calls ++ (move.request?.map Request.call).toList := by
  cases hRequest : move.request? with
  | some request =>
      rw [move_of_request hRequest, (c.heeds request).recorded]
      rfl
  | none =>
      rw [Option.map_none, Option.toList_none, List.append_nil]
      cases move <;> first | rfl | cases hRequest

/- What requests have taken comes first, in order, and what
   is still pending comes after it. -/
theorem taken_append_script
    (c : Cluster)
    (moves : List Move)
    (operation : Operation) :
    takenAlong operation (c.script operation) moves ++
        (moves.foldl Cluster.move c).script operation =
      c.script operation ++
        moves.flatMap (·.queued operation) := by
  induction moves generalizing c with
  | nil => simp [takenAlong]
  | cons move moves ih =>
      have hRest := ih (c.move move)
      rw [script_move] at hRest
      rw [takenAlong, List.foldl_cons, List.flatMap_cons]
      split at hRest
      next hTakes =>
        have hQueued : move.queued operation = [] := by
          rcases Option.map_eq_some_iff.mp hTakes with
            ⟨request, hRequest, _⟩
          exact queued_of_request hRequest operation
        rw [if_pos hTakes, hQueued, List.nil_append,
          List.append_assoc, hRest, ← List.append_assoc]
        congr 1
        cases c.script operation <;> rfl
      next hTakes =>
        rw [if_neg hTakes, hRest, List.append_assoc]

/- A failure that is queued for others is not taken, nor one
   that is queued too late. -/
example (status : Status) (key : ObjectKey) :
    takenAlong .getJob []
      [.queuePass .getJob, .queueFailure .createJob status,
        .getJob key, .getJob key,
        .queueFailure .getJob status, .getJob key] =
      [none, some status] :=
  rfl

theorem calls_run
    (c : Cluster)
    (moves : List Move) :
    (moves.foldl Cluster.move c).calls =
      c.calls ++
        (moves.filterMap (·.request?)).map Request.call := by
  induction moves generalizing c with
  | nil => simp
  | cons move moves ih =>
      rw [List.foldl_cons, ih, calls_move]
      cases hRequest : move.request? <;> simp [hRequest]

end Cluster

end Redeploy

------------------------------------------------------------
-- Scripted Runs
------------------------------------------------------------

namespace Redeploy

namespace Cluster

/-
  Whatever has been done to a cluster, the outcomes of each
  operation are taken in the order in which they were queued
  for it, each request has been recorded once, and the next
  one heeds what is left.
-/
theorem script_exact
    (c : Cluster)
    (moves : List Move)
    (request : Request) :
    let d := moves.foldl Cluster.move c
    (∀ operation,
      takenAlong operation (c.script operation) moves ++
          d.script operation =
        c.script operation ++
          moves.flatMap (·.queued operation)) ∧
    d.calls =
      c.calls ++
        (moves.filterMap (·.request?)).map Request.call ∧
    d.Heeds request :=
  ⟨taken_append_script c moves, calls_run c moves,
    heeds _ request⟩

end Cluster

end Redeploy
