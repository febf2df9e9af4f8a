import Redeploy.Proofs.Act.Situation

/-
  Actions whose course is recorded.

  Key definitions include:
    * `Watched`
    * `Act.watched`
    * `Act.Erases`

  Main results:
    * `Act.Erases.leads`
    * `Act.Erases.exists_record`

  A watched action leaves an event that tells how it ended.
  An action erases to another one if the two run alike but
  for the events; this is kept by every way to build an
  action, so a program of watched actions does what the same
  program of plain ones does.
-/

------------------------------------------------------------
-- Records
------------------------------------------------------------

namespace Redeploy

/- A system and what happened on it. -/
structure Watched (σ E : Type) where
  system : σ
  events : List E

namespace World

variable {σ E : Type}

/- A world in which some events have happened. -/
def beside
    (events : List E)
    (w : World σ) : World (Watched σ E) :=
  { w with system := ⟨w.system, events⟩ }

/- A world without what is recorded of it. -/
def unwatched
    (w : World (Watched σ E)) : World σ :=
  { w with system := w.system.system }

end World

namespace Act

variable {ε σ α E : Type}

/- An action that leaves an event in the record. -/
def watched
    (event : Except ε α → E)
    (act : Act ε σ α) : Act ε (Watched σ E) α :=
  fun w =>
    match act.run w.unwatched with
    | (outcome, after) =>
        (outcome,
          after.beside (w.system.events ++ [event outcome]))

/- Watched beside some events, an action runs as it does and
   adds its own event. -/
theorem run_watched_beside
    (event : Except ε α → E)
    (act : Act ε σ α)
    (events : List E)
    (w : World σ) :
    (act.watched event).run (w.beside events) =
      ((act.run w).1,
        (act.run w).2.beside
          (events ++ [event (act.run w).1])) :=
  rfl

theorem run_watched_events
    {event : Except ε α → E}
    {act : Act ε σ α}
    {w w' : World (Watched σ E)}
    {outcome : Except ε α}
    (h : (act.watched event).run w = (outcome, w')) :
    w'.system.events = w.system.events ++ [event outcome] := by
  cases h
  rfl

theorem Leads.watched
    {event : Except ε α → E}
    {act : Act ε σ α}
    {s s' : Situation (Watched σ E)}
    {outcome : Except ε α}
    (h : (act.watched event).Leads s outcome s') :
    s'.system.events = s.system.events ++ [event outcome] := by
  rcases h with ⟨w, w', rfl, hRun, rfl⟩
  exact run_watched_events hRun

end Act

end Redeploy

------------------------------------------------------------
-- Erasure
------------------------------------------------------------

namespace Redeploy

namespace Act

variable {ε ε' σ α β E : Type}

/- The action does what the plain one does, beside leaving
   events. -/
def Erases
    (act : Act ε (Watched σ E) α)
    (plain : Act ε σ α) : Prop :=
  ∀ w : World (Watched σ E),
    plain.run w.unwatched =
      ((act.run w).1, (act.run w).2.unwatched)

namespace Erases

variable {act : Act ε (Watched σ E) α}
variable {plain : Act ε σ α}

theorem watched
    (event : Except ε α → E)
    (plain : Act ε σ α) :
    (plain.watched event).Erases plain := by
  intro w
  rfl

theorem pure
    (a : α) :
    (Pure.pure a : Act ε (Watched σ E) α).Erases
      (Pure.pure a) := by
  intro w
  rfl

theorem fail
    (e : ε) :
    (Act.fail e : Act ε (Watched σ E) α).Erases
      (Act.fail e) := by
  intro w
  rfl

theorem bind
    {next : α → Act ε (Watched σ E) β}
    {plainNext : α → Act ε σ β}
    (hAct : act.Erases plain)
    (hNext : ∀ a, (next a).Erases (plainNext a)) :
    (act >>= next).Erases (plain >>= plainNext) := by
  intro w
  rw [run_bind, run_bind, hAct w]
  cases hRun : act.run w with
  | mk outcome after =>
      cases outcome with
      | error e => rfl
      | ok a => exact hNext a after

theorem attempt
    (hAct : act.Erases plain) :
    (act.attempt : Act ε' (Watched σ E) (Except ε α)).Erases
      plain.attempt := by
  intro w
  rw [run_attempt, run_attempt, hAct w]

theorem mapError
    (f : ε → ε')
    (hAct : act.Erases plain) :
    (act.mapError f).Erases (plain.mapError f) := by
  intro w
  rw [run_mapError, run_mapError, hAct w]

theorem map
    {f : α → β}
    (hAct : act.Erases plain) :
    (f <$> act).Erases (f <$> plain) := by
  rw [map_eq_pure_bind, map_eq_pure_bind]
  exact hAct.bind fun a => .pure (f a)

theorem noteIn
    (span : Option Span)
    (notice : Notice) :
    (Act.noteIn span notice :
      Act ε (Watched σ E) PUnit).Erases
        (Act.noteIn span notice) := by
  intro w
  rfl

theorem note
    (notice : Notice) :
    (Act.note notice : Act ε (Watched σ E) PUnit).Erases
      (Act.note notice) := by
  intro w
  rfl

theorem pause
    (delay : Duration) :
    (Act.pause delay : Act ε (Watched σ E) Bool).Erases
      (Act.pause delay) := by
  intro w
  have hNow : w.unwatched.now = w.now := rfl
  have hCancelled (finish : Nat) :
      w.unwatched.cancelledBy finish =
        w.cancelledBy finish :=
    rfl
  rw [run_pause, run_pause, hNow, hCancelled]
  -- The sum would be computed in comparing the two worlds.
  generalize w.now + delay.ceilMillis = finish
  split <;> rfl

theorem notes
    (span : Option Span)
    (notices : List Notice) :
    (notices.forM (Act.noteIn span) :
      Act ε (Watched σ E) PUnit).Erases
        (notices.forM (Act.noteIn span)) := by
  induction notices with
  | nil => exact .pure PUnit.unit
  | cons notice rest ih =>
      exact (Erases.noteIn span notice).bind fun _ => ih

theorem within
    (span : Option Span)
    (hAct : act.Erases plain) :
    (act.within span).Erases (plain.within span) := by
  intro w
  have hInside :
      plain.run
          { w.unwatched with span := span <|> w.span } =
        ((act.run { w with span := span <|> w.span }).1,
          (act.run
            { w with span := span <|> w.span }).2.unwatched) :=
    hAct { w with span := span <|> w.span }
  change
    ((plain.run
        { w.unwatched with span := span <|> w.span }).1,
      { (plain.run
          { w.unwatched with span := span <|> w.span }).2 with
        span := w.span }) = _
  rw [hInside]
  rfl

end Erases

end Act

end Redeploy

------------------------------------------------------------
-- Where Watched Actions Lead
------------------------------------------------------------

namespace Redeploy

variable {ε σ α E : Type}

/- A situation without what is recorded of it. -/
def Situation.unwatched
    (s : Situation (Watched σ E)) : Situation σ where
  system := s.system.system
  cancelledAt := s.cancelledAt

/- Where an action leads, the plain one does as well. -/
theorem Act.Erases.leads
    {act : Act ε (Watched σ E) α}
    {plain : Act ε σ α}
    {s s' : Situation (Watched σ E)}
    {outcome : Except ε α}
    (hErases : act.Erases plain)
    (h : act.Leads s outcome s') :
    plain.Leads s.unwatched outcome s'.unwatched := by
  rcases h with ⟨w, w', rfl, hRun, rfl⟩
  have hPlain := hErases w
  rw [hRun] at hPlain
  exact ⟨w.unwatched, w'.unwatched, rfl, hPlain, rfl⟩

/- A run leaves a record, and is what it is without one. -/
theorem Act.Erases.exists_record
    {act : Act ε (Watched σ E) α}
    {plain : Act ε σ α}
    (h : act.Erases plain)
    (w : World σ) :
    ∃ record,
      act.run (w.beside []) =
        ((plain.run w).1,
          (plain.run w).2.beside record) := by
  have hPlain :
      plain.run w =
        ((act.run (w.beside [])).1,
          (act.run (w.beside [])).2.unwatched) :=
    h (w.beside [])
  refine ⟨(act.run (w.beside [])).2.system.events, ?_⟩
  rw [hPlain]
  rfl

end Redeploy
