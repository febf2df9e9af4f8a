import Redeploy.Failure
import Redeploy.Policy
import Redeploy.Text.Numeral
import Redeploy.Text.Quoted
import Redeploy.Text.Space

/-
  Settings from environment variables.

  Key definitions include:
    * `Variable`
    * `Environment.number`
    * `Settings.ofEnvironment`

  A variable that is set holds a number, with white space
  around it ignored.  The variables are read in a fixed
  order, and the first one that holds none is reported.
-/

------------------------------------------------------------
-- Variables
------------------------------------------------------------

namespace Redeploy

/- The variables that change a setting. -/
inductive Variable where
  /- How often the status is polled. -/
  | statusAttempts
  /- Seconds between two polls of the status. -/
  | statusPeriod
  /- How often a deletion is looked after. -/
  | deleteAttempts
  /- Milliseconds between two looks. -/
  | deletePeriod
  /- How often a creation is tried. -/
  | createAttempts
deriving DecidableEq, Repr

namespace Variable

def name : Variable → String
  | .statusAttempts => "ROLLOUT_RETRY_ATTEMPTS"
  | .statusPeriod => "ROLLOUT_RETRY_PERIOD_SECS"
  | .deleteAttempts => "ROLLOUT_DELETE_WAIT_ATTEMPTS"
  | .deletePeriod => "ROLLOUT_DELETE_WAIT_PERIOD_MS"
  | .createAttempts => "ROLLOUT_CREATE_BACKOFF_ATTEMPTS"

/- The report of a value that is no number in range. -/
def invalid
    (v : Variable)
    (value : String)
    (fault : Text.NumeralFault) : Failure :=
  .badParameter
    (v.name ++ " environment variable is invalid (" ++
      Text.quoted value ++ "): " ++ fault.text)

end Variable

end Redeploy

------------------------------------------------------------
-- Numbers
------------------------------------------------------------

namespace Redeploy

/- The values of the variables that are set. -/
abbrev Environment := String → Option String

namespace Environment

/- The number below a limit that a variable holds, if it is
   set. -/
def number
    (env : Environment)
    (v : Variable)
    (limit : Nat)
    (positive : 0 < limit := by decide) :
    Except Failure (Option (Fin limit)) :=
  match env v.name with
  | none => .ok none
  | some value =>
      match
        Text.readNumeral limit positive
          (Text.trim value.toList)
      with
      | .ok n => .ok (some n)
      | .error fault => .error (v.invalid value fault)

end Environment

end Redeploy

------------------------------------------------------------
-- Settings
------------------------------------------------------------

namespace Redeploy

/- A limit for numbers of attempts, which have 32 bits. -/
abbrev attemptsLimit : Nat := 0x100000000

/- A limit for lengths of time, which have 64 bits. -/
abbrev timeLimit : Nat := Duration.secsLimit

namespace Settings

/- The usual settings, changed as the variables say. -/
def ofEnvironment
    (env : Environment) : Except Failure Settings := do
  let settings : Settings := {}
  let statusAttempts ←
    env.number .statusAttempts attemptsLimit
  let statusPeriod ← env.number .statusPeriod timeLimit
  let deleteAttempts ←
    env.number .deleteAttempts attemptsLimit
  let deletePeriod ← env.number .deletePeriod timeLimit
  let createAttempts ←
    env.number .createAttempts attemptsLimit
  return {
    status := {
      attempts :=
        (statusAttempts.map Fin.val).getD
          settings.status.attempts
      period :=
        (statusPeriod.map fun n => .ofSecs n n.isLt).getD
          settings.status.period }
    deleteWait := {
      attempts :=
        (deleteAttempts.map Fin.val).getD
          settings.deleteWait.attempts
      period :=
        (deletePeriod.map fun n => .ofMillis n n.isLt).getD
          settings.deleteWait.period }
    createBackoff := {
      settings.createBackoff with
      attempts :=
        (createAttempts.map Fin.val).getD
          settings.createBackoff.attempts } }

end Settings

end Redeploy
