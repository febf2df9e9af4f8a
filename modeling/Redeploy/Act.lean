import Redeploy.Notice

/-
  Actions on a system that time passes for.

  Key definitions include:
    * `World`
    * `Act`
    * `Act.attempt`
    * `Act.note`, `Act.noteIn`, `Act.within`
    * `Act.pause`
    * `Act.ofStep`, `Act.zoom`

  An action ends in a value or an error and may change the
  world either way: a failed action keeps its effects.  Time
  is counted in whole milliseconds and passes in pauses
  only; a pause ends early once the world is cancelled.
-/

------------------------------------------------------------
-- Worlds
------------------------------------------------------------

namespace Redeploy

/- A system and what surrounds it. -/
structure World (σ : Type) where
  system : σ
  /- Milliseconds since the beginning. -/
  now : Nat := 0
  /- The time from which on all is cancelled. -/
  cancelledAt : Option Nat := none
  /- The span that notices are made in. -/
  span : Option Span := none
  log : List Entry := []

/- An action that fails with an `ε` or ends in an `α`. -/
def Act (ε σ α : Type) : Type :=
  World σ → Except ε α × World σ

end Redeploy

------------------------------------------------------------
-- Sequencing
------------------------------------------------------------

namespace Redeploy

namespace Act

variable {ε σ α β : Type}

/- The outcome of an action and the world after it. -/
def run
    (act : Act ε σ α)
    (w : World σ) : Except ε α × World σ :=
  act w

protected def pure
    (a : α) : Act ε σ α :=
  fun w => (.ok a, w)

protected def bind
    (act : Act ε σ α)
    (next : α → Act ε σ β) : Act ε σ β :=
  fun w =>
    match act w with
    | (.ok a, w) => next a w
    | (.error e, w) => (.error e, w)

instance : Monad (Act ε σ) where
  pure := Act.pure
  bind := Act.bind

@[simp]
theorem run_pure
    (a : α)
    (w : World σ) :
    (pure a : Act ε σ α).run w = (.ok a, w) :=
  rfl

@[simp]
theorem run_bind
    (act : Act ε σ α)
    (next : α → Act ε σ β)
    (w : World σ) :
    (act >>= next).run w =
      match act.run w with
      | (.ok a, w) => (next a).run w
      | (.error e, w) => (.error e, w) :=
  rfl

private theorem map_id_act
    (act : Act ε σ α) :
    id <$> act = act := by
  funext w
  change (match act w with
    | (.ok a, w) => (Except.ok a, w)
    | (.error e, w) => (.error e, w)) = act w
  split <;> simp_all

private theorem bind_assoc_act
    {γ : Type}
    (act : Act ε σ α)
    (f : α → Act ε σ β)
    (g : β → Act ε σ γ) :
    act >>= f >>= g = act >>= fun a => f a >>= g := by
  funext w
  change Act.bind (Act.bind act f) g w =
    Act.bind act (fun a => Act.bind (f a) g) w
  unfold Act.bind
  cases act w with
  | mk outcome w => cases outcome <;> rfl

instance : LawfulMonad (Act ε σ) :=
  LawfulMonad.mk' _ map_id_act (fun _ _ => rfl) bind_assoc_act

end Act

end Redeploy

------------------------------------------------------------
-- Failing
------------------------------------------------------------

namespace Redeploy

namespace Act

variable {ε ε' σ α : Type}

def fail
    (e : ε) : Act ε σ α :=
  fun w => (.error e, w)

/- The outcome of an action, as a value. -/
def attempt
    (act : Act ε σ α) : Act ε' σ (Except ε α) :=
  fun w =>
    match act w with
    | (outcome, w) => (.ok outcome, w)

/- End as an outcome says. -/
def ofExcept
    (outcome : Except ε α) : Act ε σ α :=
  fun w => (outcome, w)

/- Fail with another error. -/
def mapError
    (f : ε → ε')
    (act : Act ε σ α) : Act ε' σ α :=
  fun w =>
    match act w with
    | (.ok a, w) => (.ok a, w)
    | (.error e, w) => (.error (f e), w)

@[simp]
theorem run_fail
    (e : ε)
    (w : World σ) :
    (fail e : Act ε σ α).run w = (.error e, w) :=
  rfl

@[simp]
theorem run_attempt
    (act : Act ε σ α)
    (w : World σ) :
    (act.attempt : Act ε' σ (Except ε α)).run w =
      (.ok (act.run w).1, (act.run w).2) :=
  rfl

@[simp]
theorem run_ofExcept
    (outcome : Except ε α)
    (w : World σ) :
    (ofExcept outcome : Act ε σ α).run w = (outcome, w) :=
  rfl

@[simp]
theorem run_mapError
    (f : ε → ε')
    (act : Act ε σ α)
    (w : World σ) :
    (act.mapError f).run w =
      ((act.run w).1.mapError f, (act.run w).2) := by
  change (match act w with
    | (.ok a, w) => (Except.ok a, w)
    | (.error e, w) => (.error (f e), w)) =
      ((act w).1.mapError f, (act w).2)
  cases act w with
  | mk outcome w => cases outcome <;> rfl

end Act

end Redeploy

------------------------------------------------------------
-- Log
------------------------------------------------------------

namespace Redeploy

namespace Act

variable {ε σ α : Type}

/- Make a notice in a given span. -/
def noteIn
    (span : Option Span)
    (notice : Notice) : Act ε σ PUnit :=
  fun w =>
    (.ok ⟨⟩, { w with log := w.log ++ [⟨span, notice⟩] })

/- Make a notice in the current span. -/
def note
    (notice : Notice) : Act ε σ PUnit :=
  fun w => noteIn w.span notice w

/- Act in a span of one's own, if one is given. -/
def within
    (span : Option Span)
    (act : Act ε σ α) : Act ε σ α :=
  fun w =>
    match act { w with span := span <|> w.span } with
    | (outcome, after) =>
        (outcome, { after with span := w.span })

@[simp]
theorem run_noteIn
    (span : Option Span)
    (notice : Notice)
    (w : World σ) :
    (noteIn span notice : Act ε σ PUnit).run w =
      (.ok ⟨⟩, { w with log := w.log ++ [⟨span, notice⟩] }) :=
  rfl

@[simp]
theorem run_note
    (notice : Notice)
    (w : World σ) :
    (note notice : Act ε σ PUnit).run w =
      (.ok ⟨⟩,
        { w with log := w.log ++ [⟨w.span, notice⟩] }) :=
  rfl

theorem run_within
    (span : Option Span)
    (act : Act ε σ α)
    (w : World σ) :
    (act.within span).run w =
      let (outcome, after) :=
        act.run { w with span := span <|> w.span }
      (outcome, { after with span := w.span }) :=
  rfl

end Act

end Redeploy

------------------------------------------------------------
-- Time
------------------------------------------------------------

namespace Redeploy

/- Whether all is cancelled before a pause ends. -/
def World.cancelledBy
    {σ : Type}
    (w : World σ)
    (finish : Nat) : Bool :=
  match w.cancelledAt with
  | some t => t ≤ w.now || t < finish
  | none => false

namespace Act

variable {ε σ : Type}

/-
  Let time pass, to the first whole millisecond at which the
  delay is over.  The value tells whether the pause ran its
  course.
-/
def pause
    (delay : Duration) : Act ε σ Bool :=
  fun w =>
    let finish := w.now + delay.ceilMillis
    if w.cancelledBy finish then
      (.ok false,
        { w with now := max w.now (w.cancelledAt.getD 0) })
    else (.ok true, { w with now := finish })

/- Cancel everything from now on. -/
def cancel : Act ε σ PUnit :=
  fun w => (.ok ⟨⟩, { w with cancelledAt := some w.now })

end Act

end Redeploy

------------------------------------------------------------
-- Systems
------------------------------------------------------------

namespace Redeploy

namespace Act

variable {ε σ τ α : Type}

/- A step of the system alone. -/
def ofStep
    (step : σ → Except ε α × σ) : Act ε σ α :=
  fun w =>
    match step w.system with
    | (outcome, system) => (outcome, { w with system })

/- Act on a part of a system. -/
def zoom
    (get : σ → τ)
    (set : σ → τ → σ)
    (act : Act ε τ α) : Act ε σ α :=
  fun w =>
    match act { w with system := get w.system } with
    | (outcome, after) =>
        (outcome,
          { after with system := set w.system after.system })

@[simp]
theorem run_ofStep
    (step : σ → Except ε α × σ)
    (w : World σ) :
    (ofStep step).run w =
      ((step w.system).1,
        { w with system := (step w.system).2 }) :=
  rfl

end Act

end Redeploy
