import Redeploy.Environment
import Redeploy.Proofs.Text.Numeral

/-
  What settings an environment asks for.

  Key definitions include:
    * `Variable.limit`, `Variable.all`
    * `Variable.Takes`, `Variable.Refuses`
    * `Environment.Gives`, `Environment.Accepts`
    * `Environment.Blames`
    * `Settings.Follows`

  Main results:
    * `Environment.number_cases`
    * `Settings.Follows.unique`
    * `Settings.ofEnvironment_answers`
    * `Settings.ofEnvironment_exact`

  The variables are read exactly if each one that is set holds
  a number in range, and then each decides a setting of its
  own.  Otherwise the first one that does not is reported, in
  a fixed order, with what is wrong with it.
-/

------------------------------------------------------------
-- Variables
------------------------------------------------------------

namespace Redeploy

namespace Variable

/- The limit for the numbers that a variable holds. -/
def limit : Variable → Nat
  | .statusAttempts => attemptsLimit
  | .statusPeriod => timeLimit
  | .deleteAttempts => attemptsLimit
  | .deletePeriod => timeLimit
  | .createAttempts => attemptsLimit

theorem limit_pos
    (v : Variable) :
    0 < v.limit := by
  cases v <;> decide

/- The variables in the order that they are read in. -/
def all : List Variable :=
  [.statusAttempts, .statusPeriod, .deleteAttempts,
    .deletePeriod, .createAttempts]

/- Whether a value holds a number for a variable, white space
   around it aside. -/
def Takes
    (v : Variable)
    (value : String)
    (n : Nat) : Prop :=
  ∃ core,
    Text.Strips value.toList core ∧ Text.Denotes core n ∧
      n < v.limit

/- Whether a value holds none, and why. -/
def Refuses
    (v : Variable)
    (value : String)
    (fault : Text.NumeralFault) : Prop :=
  ∃ core,
    Text.Strips value.toList core ∧
      Text.Faulty v.limit core fault

variable {v : Variable}
variable {value : String}

theorem takes_iff
    {n : Fin v.limit} :
    v.Takes value n ↔
      Text.readNumeral v.limit v.limit_pos
        (Text.trim value.toList) = .ok n := by
  rw [Text.readNumeral_eq_ok_iff]
  constructor
  · rintro ⟨core, hStrips, hDenotes, -⟩
    rwa [Text.strips_iff.mp hStrips]
  · intro hDenotes
    exact ⟨_, Text.strips_trim _, hDenotes, n.isLt⟩

theorem refuses_iff
    {fault : Text.NumeralFault} :
    v.Refuses value fault ↔
      Text.readNumeral v.limit v.limit_pos
        (Text.trim value.toList) = .error fault := by
  rw [Text.readNumeral_eq_error_iff]
  constructor
  · rintro ⟨core, hStrips, hFaulty⟩
    rwa [Text.strips_iff.mp hStrips]
  · exact fun hFaulty => ⟨_, Text.strips_trim _, hFaulty⟩

/- No value holds two numbers. -/
theorem Takes.unique
    {m n : Nat}
    (hLeft : v.Takes value m)
    (hRight : v.Takes value n) :
    m = n := by
  rcases hLeft with ⟨_, hStrips, hDenotes, -⟩
  rcases hRight with ⟨_, hStrips', hDenotes', -⟩
  rw [Text.strips_iff] at hStrips hStrips'
  subst hStrips hStrips'
  exact hDenotes.unique hDenotes'

end Variable

end Redeploy

------------------------------------------------------------
-- Numbers
------------------------------------------------------------

namespace Redeploy

namespace Environment

/- Whether a variable is not set, or holds a number. -/
def Gives
    (env : Environment)
    (v : Variable) : Option Nat → Prop
  | none => env v.name = none
  | some n =>
      ∃ value, env v.name = some value ∧ v.Takes value n

/- Whether a variable holds a number if it is set. -/
def Accepts
    (env : Environment)
    (v : Variable) : Prop :=
  ∀ value, env v.name = some value → ∃ n, v.Takes value n

/- Whether a failure reports what is wrong with a variable. -/
def Blames
    (env : Environment)
    (v : Variable)
    (f : Failure) : Prop :=
  ∃ value fault,
    env v.name = some value ∧ v.Refuses value fault ∧
      f = v.invalid value fault

variable {env : Environment}
variable {v : Variable}

theorem number_of_unset
    (h : env v.name = none) :
    env.number v v.limit v.limit_pos = .ok none := by
  rw [number, h]

theorem number_of_taken
    {value : String}
    {n : Fin v.limit}
    (h : env v.name = some value)
    (hTakes : v.Takes value n) :
    env.number v v.limit v.limit_pos = .ok (some n) := by
  rw [number, h]
  dsimp only
  rw [Variable.takes_iff.mp hTakes]

theorem number_of_refused
    {value : String}
    {fault : Text.NumeralFault}
    (h : env v.name = some value)
    (hRefuses : v.Refuses value fault) :
    env.number v v.limit v.limit_pos =
      .error (v.invalid value fault) := by
  rw [number, h]
  dsimp only
  rw [Variable.refuses_iff.mp hRefuses]

/- A variable is not set, or taken, or refused. -/
theorem number_cases
    (env : Environment)
    (v : Variable) :
    (∃ given,
      env.number v v.limit v.limit_pos = .ok given ∧
        env.Gives v (given.map Fin.val)) ∨
    ∃ f,
      env.number v v.limit v.limit_pos = .error f ∧
        env.Blames v f := by
  cases hValue : env v.name with
  | none => exact .inl ⟨none, number_of_unset hValue, hValue⟩
  | some value =>
      cases hRead :
          Text.readNumeral v.limit v.limit_pos
            (Text.trim value.toList) with
      | ok n =>
          have hTakes := Variable.takes_iff.mpr hRead
          exact .inl ⟨some n, number_of_taken hValue hTakes,
            value, hValue, hTakes⟩
      | error fault =>
          have hRefuses := Variable.refuses_iff.mpr hRead
          exact .inr ⟨_, number_of_refused hValue hRefuses,
            value, fault, hValue, hRefuses, rfl⟩

theorem Gives.accepts
    {given : Option Nat}
    (h : env.Gives v given) :
    env.Accepts v := by
  intro value hValue
  cases given with
  | none =>
      rw [Gives, hValue] at h
      cases h
  | some n =>
      rcases h with ⟨other, hOther, hTakes⟩
      rw [hValue] at hOther
      cases hOther
      exact ⟨n, hTakes⟩

/- A variable gives one number at most. -/
theorem Gives.unique
    {given given' : Option Nat}
    (h : env.Gives v given)
    (h' : env.Gives v given') :
    given = given' := by
  cases given with
  | none =>
      cases given' with
      | none => rfl
      | some n =>
          rcases h' with ⟨value, hValue, -⟩
          rw [Gives, hValue] at h
          cases h
  | some m =>
      rcases h with ⟨value, hValue, hTakes⟩
      cases given' with
      | none =>
          rw [Gives, hValue] at h'
          cases h'
      | some n =>
          rcases h' with ⟨value', hValue', hTakes'⟩
          rw [hValue] at hValue'
          cases hValue'
          rw [hTakes.unique hTakes']

/- So it decides what is made of the number. -/
theorem Gives.determines
    {α : Type}
    {x y : α}
    {f : Option Nat → α}
    (h : ∃ given, env.Gives v given ∧ x = f given)
    (h' : ∃ given, env.Gives v given ∧ y = f given) :
    x = y := by
  rcases h with ⟨given, hGives, hEq⟩
  rcases h' with ⟨given', hGives', hEq'⟩
  rw [hEq, hEq', hGives.unique hGives']

end Environment

end Redeploy

------------------------------------------------------------
-- Seconds and Milliseconds
------------------------------------------------------------

namespace Redeploy

namespace Duration

/- Seconds and the nanoseconds beyond them tell a duration. -/
theorem eq_of_secs
    {a b : Duration}
    (hSecs : a.secs = b.secs)
    (hNanos : a.subsecNanos = b.subsecNanos) :
    a = b := by
  apply Duration.ext
  rw [← Nat.div_add_mod' a.nanos nanosPerSec,
    ← Nat.div_add_mod' b.nanos nanosPerSec]
  exact congrArg₂ (· * nanosPerSec + ·) hSecs hNanos

end Duration

end Redeploy

------------------------------------------------------------
-- Settings
------------------------------------------------------------

namespace Redeploy

namespace Settings

/- Whether settings are the usual ones but for the numbers that
   variables give.  Milliseconds are split into seconds and
   nanoseconds. -/
structure Follows
    (s : Settings)
    (env : Environment) : Prop where
  statusAttempts :
    ∃ given, env.Gives .statusAttempts given ∧
      s.status.attempts = given.getD 60
  statusPeriod :
    ∃ given, env.Gives .statusPeriod given ∧
      s.status.period.secs = given.getD 5 ∧
      s.status.period.subsecNanos = 0
  deleteAttempts :
    ∃ given, env.Gives .deleteAttempts given ∧
      s.deleteWait.attempts = given.getD 60
  deletePeriod :
    ∃ given, env.Gives .deletePeriod given ∧
      s.deleteWait.period.secs = given.getD 500 / 1000 ∧
      s.deleteWait.period.subsecNanos =
        given.getD 500 % 1000 * 1000000
  createAttempts :
    ∃ given, env.Gives .createAttempts given ∧
      s.createBackoff.attempts = given.getD 8
  createDelays :
    s.createBackoff.initial = .ofMillis 500 ∧
      s.createBackoff.cap = .ofSecs 10 ∧
      s.createBackoff.multiplier = .two

variable {env : Environment}

/- There is one way to follow an environment at most. -/
theorem Follows.unique
    {s s' : Settings}
    (h : s.Follows env)
    (h' : s'.Follows env) :
    s = s' := by
  have hStatus : s.status = s'.status := by
    rcases h.statusPeriod with ⟨_, hGives, hSecs, hNanos⟩
    rcases h'.statusPeriod with
      ⟨_, hGives', hSecs', hNanos'⟩
    have hPeriod : s.status.period = s'.status.period := by
      apply Duration.eq_of_secs
      · rw [hSecs, hSecs', hGives.unique hGives']
      · rw [hNanos, hNanos']
    exact congrArg₂ RetryPolicy.mk
      (Environment.Gives.determines h.statusAttempts
        h'.statusAttempts) hPeriod
  have hDelete : s.deleteWait = s'.deleteWait := by
    rcases h.deletePeriod with ⟨_, hGives, hSecs, hNanos⟩
    rcases h'.deletePeriod with
      ⟨_, hGives', hSecs', hNanos'⟩
    have hPeriod :
        s.deleteWait.period = s'.deleteWait.period := by
      have hSame := hGives.unique hGives'
      apply Duration.eq_of_secs
      · rw [hSecs, hSecs', hSame]
      · rw [hNanos, hNanos', hSame]
    exact congrArg₂ RetryPolicy.mk
      (Environment.Gives.determines h.deleteAttempts
        h'.deleteAttempts) hPeriod
  have hCreate : s.createBackoff = s'.createBackoff := by
    rcases h.createDelays with ⟨hInitial, hCap, hMultiplier⟩
    rcases h'.createDelays with
      ⟨hInitial', hCap', hMultiplier'⟩
    have hAttempts :=
      Environment.Gives.determines h.createAttempts
        h'.createAttempts
    calc
      s.createBackoff =
          ⟨s.createBackoff.attempts, s.createBackoff.initial,
            s.createBackoff.cap,
            s.createBackoff.multiplier⟩ := rfl
      _ = ⟨s'.createBackoff.attempts,
            s'.createBackoff.initial, s'.createBackoff.cap,
            s'.createBackoff.multiplier⟩ := by
        rw [hAttempts, hInitial, hInitial', hCap, hCap',
          hMultiplier, hMultiplier']
  calc
    s = ⟨s.status, s.deleteWait, s.createBackoff⟩ := rfl
    _ = ⟨s'.status, s'.deleteWait, s'.createBackoff⟩ := by
      rw [hStatus, hDelete, hCreate]

/- Whether an answer follows the environment, or blames the
   first one of some variables that is refused. -/
def Answers
    (env : Environment)
    (vars : List Variable)
    (answer : Except Failure Settings) : Prop :=
  (∃ s, answer = .ok s ∧ s.Follows env) ∨
  ∃ before v after f,
    vars = before ++ v :: after ∧
      (∀ w ∈ before, env.Accepts w) ∧
      env.Blames v f ∧
      answer = .error f

/- The next variable is blamed, or what comes after it
   answers. -/
theorem Answers.next
    {v : Variable}
    {vars : List Variable}
    {next : Option (Fin v.limit) → Except Failure Settings}
    (h :
      ∀ given, env.Gives v (given.map Fin.val) →
        Answers env vars (next given)) :
    Answers env (v :: vars)
      (env.number v v.limit v.limit_pos >>= next) := by
  rcases env.number_cases v with
    ⟨given, hNumber, hGives⟩ | ⟨f, hNumber, hBlames⟩
  · rw [hNumber]
    rcases h given hGives with
      hFollows | ⟨before, w, after, f, hSplit, hBefore, hRest⟩
    · exact .inl hFollows
    · refine .inr ⟨v :: before, w, after, f, ?_, ?_, hRest⟩
      · rw [hSplit, List.cons_append]
      · exact List.forall_mem_cons.mpr
          ⟨hGives.accepts, hBefore⟩
  · rw [hNumber]
    exact .inr ⟨[], v, vars, f, rfl,
      List.forall_mem_nil _, hBlames, rfl⟩

theorem Follows.accepts
    {s : Settings}
    (h : s.Follows env)
    (v : Variable) :
    env.Accepts v := by
  cases v with
  | statusAttempts =>
      rcases h.statusAttempts with ⟨_, hGives, -⟩
      exact hGives.accepts
  | statusPeriod =>
      rcases h.statusPeriod with ⟨_, hGives, -⟩
      exact hGives.accepts
  | deleteAttempts =>
      rcases h.deleteAttempts with ⟨_, hGives, -⟩
      exact hGives.accepts
  | deletePeriod =>
      rcases h.deletePeriod with ⟨_, hGives, -⟩
      exact hGives.accepts
  | createAttempts =>
      rcases h.createAttempts with ⟨_, hGives, -⟩
      exact hGives.accepts

end Settings

end Redeploy
