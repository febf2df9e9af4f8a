import Redeploy.Call
import Redeploy.Duration
import Redeploy.Failure

/-
  What a controller tells its log.

  Key definitions include:
    * `Span`
    * `Notice`
    * `Notice.level`
    * `Notice.text`
    * `Entry`
-/

------------------------------------------------------------
-- Spans
------------------------------------------------------------

namespace Redeploy

/- The activity that an entry of the log belongs to. -/
structure Span where
  name : String
  fields : List (String × String) := []
deriving DecidableEq, Inhabited

def Span.text
    (span : Span) : String :=
  span.name ++ "\x7b" ++
    " ".intercalate
      (span.fields.map fun f => f.1 ++ "=" ++ f.2) ++
    "\x7d"

end Redeploy

------------------------------------------------------------
-- Notices
------------------------------------------------------------

namespace Redeploy

inductive Level where
  | debug
  | info
  | warn
  | error
deriving DecidableEq, Repr

/- An event that is worth an entry. -/
inductive Notice where
  /- Polling and retrying. -/
  | polling (attempts : Nat) (period : Duration)
  | retrying
      (attempt : Nat)
      (failure : Failure)
      (delay : Duration)
  | closing
  /- Recovery from a failure. -/
  | noRecovery
  | recovering (failure : Failure)
  | recovered
  | recoveryFailed (failure : Failure)
  /- Pods of a workload. -/
  | podSkipped (pod : Metadata) (failure : Failure)
  | podFound (pod : Metadata) (node : String)
  | deletingPod (pod : Metadata)
  | podGone (name : String)
  /- Pods on expected nodes. -/
  | noPod (node : String)
  | podFinished
      (node : String)
      (pod : Metadata)
      (phase : String)
  | podRunning (node : String) (pod : Metadata)
  /- Replacing a workload. -/
  | upserting (object : ObjectKey)
  | deletingCurrent (kind : String)
  | creating (kind : String)
  | created (kind : String)
  | deletingStalePods (kind : String)
  /- Deleting a workload. -/
  | deleting (object : ObjectKey)
  | leavingPods
  | deletingPods
  /- Requests to the API server. -/
  | requesting (call : Call)
deriving DecidableEq

namespace Notice

def level : Notice → Level
  | .noRecovery | .podGone _ | .leavingPods
  | .requesting _ => .debug
  | .podSkipped _ _ => .warn
  | .recoveryFailed _ => .error
  | _ => .info

def text : Notice → String
  | .polling attempts period =>
      "checking status retry_attempts=" ++ toString attempts ++
        ", retry_period=" ++ period.text
  | .retrying attempt failure delay =>
      "attempt " ++ toString attempt ++ ", result: " ++
        failure.text ++ ", retry in " ++ delay.text
  | .closing => "context is closing, return"
  | .noRecovery => "no recovery needed, returning"
  | .recovering failure =>
      "need to recover after: " ++ failure.text
  | .recovered => "recovered successfully"
  | .recoveryFailed failure =>
      "recovery failed: " ++ failure.text
  | .podSkipped pod failure =>
      "skipping pod " ++ pod.path ++ ": " ++ failure.text
  | .podFound pod node =>
      "found pod " ++ pod.path ++ " on node " ++ node
  | .deletingPod pod => "deleting pod " ++ pod.path
  | .podGone name => "pod " ++ name ++ " already deleted"
  | .noPod node => "no pod found on node " ++ node
  | .podFinished node pod phase =>
      "node " ++ node ++ ": pod " ++ pod.path ++ " is " ++
        Text.quoted phase
  | .podRunning node pod =>
      "node " ++ node ++ ": pod " ++ pod.path ++
        " is up and running"
  | .upserting object => "upsert " ++ object.path
  | .deletingCurrent kind =>
      "deleting current " ++ Text.lowercase kind
  | .creating kind => "creating new " ++ Text.lowercase kind
  | .created kind =>
      Text.lowercase kind ++ " created successfully"
  | .deletingStalePods kind =>
      "deleting pods created by previous " ++
        Text.lowercase kind
  | .deleting object => "delete " ++ object.path
  | .leavingPods =>
      "cascade not set, pods are left to the server"
  | .deletingPods => "deleting pods"
  | .requesting call => call.text

end Notice

/- A notice and the span it was made in. -/
structure Entry where
  span : Option Span
  notice : Notice
deriving DecidableEq

end Redeploy
