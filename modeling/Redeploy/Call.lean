import Redeploy.Object.Metadata
import Redeploy.Text.Quoted

/-
  Requests to a cluster.

  Key definitions include:
    * `Propagation`
    * `Operation`
    * `Call`
    * `Call.text`
-/

------------------------------------------------------------
-- Calls
------------------------------------------------------------

namespace Redeploy

/- What becomes of the dependents of a deleted object. -/
inductive Propagation where
  /- They stay, without an owner. -/
  | orphan
  /- They are deleted after the owner. -/
  | background
  /- They are deleted before the owner disappears. -/
  | foreground
deriving DecidableEq, Repr

def Propagation.name : Propagation → String
  | .orphan => "Orphan"
  | .background => "Background"
  | .foreground => "Foreground"

/- What can be asked of a cluster. -/
inductive Operation where
  | getJob
  | createJob
  | deleteJob
  | listPods
  | deletePod
  | listNodes
deriving DecidableEq, Repr

/- One request. -/
inductive Call where
  | getJob (key : ObjectKey)
  | createJob (key : ObjectKey)
  | deleteJob
      (key : ObjectKey)
      (propagation : Option Propagation)
  | listPods (ns selector : String)
  | deletePod (key : ObjectKey)
  | listNodes (selector : String)
deriving DecidableEq

namespace Call

def operation : Call → Operation
  | .getJob _ => .getJob
  | .createJob _ => .createJob
  | .deleteJob _ _ => .deleteJob
  | .listPods _ _ => .listPods
  | .deletePod _ => .deletePod
  | .listNodes _ => .listNodes

end Call

end Redeploy

------------------------------------------------------------
-- Text
------------------------------------------------------------

namespace Redeploy

namespace Call

private def keyText
    (key : ObjectKey) : String :=
  key.ns ++ "/" ++ key.name

private def propagationText : Option Propagation → String
  | some p => "Some(" ++ p.name ++ ")"
  | none => "None"

/- How a log tells of a request. -/
def text : Call → String
  | .getJob key => "GET job " ++ keyText key
  | .createJob key => "POST job " ++ keyText key
  | .deleteJob key propagation =>
      "DELETE job " ++ keyText key ++ " propagation=" ++
        propagationText propagation
  | .listPods ns selector =>
      "LIST pods in " ++ ns ++ " selector=" ++
        Text.quoted selector
  | .deletePod key => "DELETE pod " ++ keyText key
  | .listNodes selector =>
      "LIST nodes selector=" ++ Text.quoted selector

end Call

end Redeploy
