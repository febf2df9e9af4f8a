import Redeploy.Act

/-
  What an action can do to a system, whatever the time, the
  span and the log are.

  Key definitions include:
    * `Situation`
    * `Act.Leads`

  Each way to build an action has an inversion theorem: from
  where the whole action leads it says where the parts led.
  Time is forgotten, so a pause may be cut short in every
  situation that is cancelled at all.
-/

------------------------------------------------------------
-- Situations
------------------------------------------------------------

namespace Redeploy

/- A system and when it is cancelled. -/
@[ext]
structure Situation (σ : Type) where
  system : σ
  cancelledAt : Option Nat

def World.situation
    {σ : Type}
    (w : World σ) : Situation σ where
  system := w.system
  cancelledAt := w.cancelledAt

theorem World.situation_at
    {σ : Type}
    (w : World σ)
    (now : Nat) :
    { w with now }.situation = w.situation :=
  rfl

namespace Act

variable {ε ε' σ α β : Type}
variable {s s' : Situation σ}

/- From a situation an action can come to an outcome and to
   another situation. -/
def Leads
    (act : Act ε σ α)
    (s : Situation σ)
    (outcome : Except ε α)
    (s' : Situation σ) : Prop :=
  ∃ w w' : World σ,
    w.situation = s ∧
      act.run w = (outcome, w') ∧
      w'.situation = s'

/- Every run is one of the ways that an action can go. -/
theorem leads_run
    (act : Act ε σ α)
    (w : World σ) :
    act.Leads w.situation (act.run w).1
      (act.run w).2.situation :=
  ⟨w, (act.run w).2, rfl, rfl, rfl⟩

end Act

end Redeploy

------------------------------------------------------------
-- Sequencing
------------------------------------------------------------

namespace Redeploy

namespace Act

variable {ε ε' σ α β : Type}
variable {s s' : Situation σ}

theorem Leads.pure
    {a : α}
    {outcome : Except ε α}
    (h : (Pure.pure a : Act ε σ α).Leads s outcome s') :
    outcome = .ok a ∧ s' = s := by
  rcases h with ⟨w, w', rfl, hRun, rfl⟩
  cases hRun
  exact ⟨rfl, rfl⟩

theorem Leads.fail
    {e : ε}
    {outcome : Except ε α}
    (h : (Act.fail e : Act ε σ α).Leads s outcome s') :
    outcome = .error e ∧ s' = s := by
  rcases h with ⟨w, w', rfl, hRun, rfl⟩
  cases hRun
  exact ⟨rfl, rfl⟩

/- A run of a sequence fails with its first part, or ends as
   its second part does. -/
theorem run_bind_eq
    {act : Act ε σ α}
    {next : α → Act ε σ β}
    {w w' : World σ}
    {outcome : Except ε β}
    (h : (act >>= next).run w = (outcome, w')) :
    (∃ e, act.run w = (.error e, w') ∧
      outcome = .error e) ∨
    (∃ a w₁, act.run w = (.ok a, w₁) ∧
      (next a).run w₁ = (outcome, w')) := by
  rw [run_bind] at h
  cases hFirst : act.run w with
  | mk tried w₁ =>
      rw [hFirst] at h
      cases tried with
      | error e =>
          cases h
          exact .inl ⟨e, rfl, rfl⟩
      | ok a => exact .inr ⟨a, w₁, rfl, h⟩

/- A sequence fails with its first part, or its second part
   goes on from where the first one led. -/
theorem Leads.bind
    {act : Act ε σ α}
    {next : α → Act ε σ β}
    {outcome : Except ε β}
    (h : (act >>= next).Leads s outcome s') :
    (∃ e, act.Leads s (.error e) s' ∧
      outcome = .error e) ∨
    (∃ a s₁, act.Leads s (.ok a) s₁ ∧
      (next a).Leads s₁ outcome s') := by
  rcases h with ⟨w, w', hStart, hRun, hEnd⟩
  rcases run_bind_eq hRun with
    ⟨e, hFirst, rfl⟩ | ⟨a, w₁, hFirst, hNext⟩
  · exact .inl ⟨e, ⟨w, w', hStart, hFirst, hEnd⟩, rfl⟩
  · exact .inr ⟨a, w₁.situation,
      ⟨w, w₁, hStart, hFirst, rfl⟩,
      ⟨w₁, w', rfl, hNext, hEnd⟩⟩

/- What follows an action that is only tried goes on from
   its outcome, whichever it is. -/
theorem Leads.attempt_bind
    {act : Act ε σ α}
    {next : Except ε α → Act ε' σ β}
    {outcome : Except ε' β}
    (h : (act.attempt >>= next).Leads s outcome s') :
    ∃ tried s₁, act.Leads s tried s₁ ∧
      (next tried).Leads s₁ outcome s' := by
  rcases h with ⟨w, w', hStart, hRun, hEnd⟩
  rw [run_bind, run_attempt] at hRun
  exact ⟨(act.run w).1, (act.run w).2.situation,
    ⟨w, _, hStart, rfl, rfl⟩,
    ⟨_, w', rfl, hRun, hEnd⟩⟩

/- What only makes something of a value has no other part in
   a sequence. -/
theorem Leads.bind_of_pure
    {act : Act ε σ α}
    {next : α → Act ε σ β}
    {f : α → β}
    {outcome : Except ε β}
    (hNext :
      ∀ a s outcome s', (next a).Leads s outcome s' →
        outcome = .ok (f a) ∧ s' = s)
    (h : (act >>= next).Leads s outcome s') :
    ∃ inner, act.Leads s inner s' ∧
      outcome = inner.map f := by
  rcases h.bind with ⟨e, hAct, rfl⟩ | ⟨a, s₁, hAct, hRest⟩
  · exact ⟨.error e, hAct, rfl⟩
  · rcases hNext a _ _ _ hRest with ⟨rfl, rfl⟩
    exact ⟨.ok a, hAct, rfl⟩

theorem Leads.mapError
    {act : Act ε σ α}
    {f : ε → ε'}
    {outcome : Except ε' α}
    (h : (act.mapError f).Leads s outcome s') :
    ∃ inner, act.Leads s inner s' ∧
      outcome = inner.mapError f := by
  rcases h with ⟨w, w', hStart, hRun, hEnd⟩
  rw [run_mapError] at hRun
  cases hRun
  exact ⟨(act.run w).1, ⟨w, _, hStart, rfl, hEnd⟩, rfl⟩

end Act

end Redeploy

------------------------------------------------------------
-- Log and Time
------------------------------------------------------------

namespace Redeploy

namespace Act

variable {ε σ α : Type}
variable {s s' : Situation σ}
variable {outcome : Except ε α}

theorem Leads.noteIn
    {span : Option Span}
    {notice : Notice}
    {outcome : Except ε PUnit}
    (h : (Act.noteIn span notice).Leads s outcome s') :
    outcome = .ok ⟨⟩ ∧ s' = s := by
  rcases h with ⟨w, w', rfl, hRun, rfl⟩
  cases hRun
  exact ⟨rfl, rfl⟩

theorem Leads.after_noteIn
    {span : Option Span}
    {notice : Notice}
    {next : PUnit → Act ε σ α}
    (h : (Act.noteIn span notice >>= next).Leads s
      outcome s') :
    (next ⟨⟩).Leads s outcome s' := by
  rcases h.bind with ⟨e, hNote, -⟩ | ⟨a, s₁, hNote, hNext⟩
  · cases hNote.noteIn.1
  · rwa [hNote.noteIn.2] at hNext

theorem Leads.after_note
    {notice : Notice}
    {next : PUnit → Act ε σ α}
    (h : (Act.note notice >>= next).Leads s outcome s') :
    (next ⟨⟩).Leads s outcome s' := by
  rcases h with ⟨w, w', rfl, hRun, rfl⟩
  exact ⟨{ w with log := w.log ++ [⟨w.span, notice⟩] }, w',
    rfl, hRun, rfl⟩

/- Notices, one after the other, change nothing either. -/
theorem Leads.after_notes
    {span : Option Span}
    {next : PUnit → Act ε σ α}
    {notices : List Notice}
    (h : (notices.forM (Act.noteIn span) >>= next).Leads s
      outcome s') :
    (next ⟨⟩).Leads s outcome s' := by
  induction notices with
  | nil => exact h
  | cons notice rest ih =>
      replace h : ((Act.noteIn span notice >>= fun _ =>
          rest.forM (Act.noteIn span)) >>= next).Leads s
            outcome s' := h
      rw [bind_assoc] at h
      exact ih h.after_noteIn

theorem Leads.within
    {span : Option Span}
    {act : Act ε σ α}
    (h : (act.within span).Leads s outcome s') :
    act.Leads s outcome s' := by
  rcases h with ⟨w, w', rfl, hRun, rfl⟩
  rw [run_within] at hRun
  cases hRun
  exact ⟨{ w with span := span <|> w.span }, _,
    rfl, rfl, rfl⟩

theorem run_pause
    (delay : Duration)
    (w : World σ) :
    (Act.pause delay : Act ε σ Bool).run w =
      if w.cancelledBy (w.now + delay.ceilMillis) then
        (.ok false,
          { w with
            now := max w.now (w.cancelledAt.getD 0) })
      else
        (.ok true,
          { w with now := w.now + delay.ceilMillis }) :=
  rfl

/- A pause runs its course in a situation that is never
   cancelled. -/
theorem Leads.after_pause
    {delay : Duration}
    {next : Bool → Act ε σ α}
    (h : (Act.pause delay >>= next).Leads s outcome s') :
    ∃ elapsed,
      (elapsed = false → s.cancelledAt ≠ none) ∧
        (next elapsed).Leads s outcome s' := by
  rcases h with ⟨w, w', rfl, hRun, rfl⟩
  rw [run_bind, run_pause] at hRun
  cases hCancelled :
      w.cancelledBy (w.now + delay.ceilMillis) with
  | true =>
      rw [hCancelled] at hRun
      refine ⟨false, fun _ hNever => ?_,
        ⟨_, w', w.situation_at _, hRun, rfl⟩⟩
      replace hNever : w.cancelledAt = none := hNever
      simp [World.cancelledBy, hNever] at hCancelled
  | false =>
      rw [hCancelled] at hRun
      exact ⟨true, by simp,
        ⟨_, w', w.situation_at _, hRun, rfl⟩⟩

end Act

end Redeploy

------------------------------------------------------------
-- Systems
------------------------------------------------------------

namespace Redeploy

namespace Act

variable {ε σ α : Type}
variable {outcome : Except ε α}

theorem Leads.ofStep
    {s s' : Situation σ}
    {step : σ → Except ε α × σ}
    (h : (Act.ofStep step).Leads s outcome s') :
    step s.system = (outcome, s'.system) ∧
      s'.cancelledAt = s.cancelledAt := by
  rcases h with ⟨w, w', rfl, hRun, rfl⟩
  rw [run_ofStep] at hRun
  cases hRun
  exact ⟨rfl, rfl⟩

end Act

end Redeploy
