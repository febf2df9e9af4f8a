import Redeploy.Json.Basic

/-
  Conditions in the status of an object.

  Key definitions include:
    * `Condition`
    * `Condition.isMet`
-/

------------------------------------------------------------
-- Conditions
------------------------------------------------------------

namespace Redeploy

/- A condition that an object meets, fails or may meet. -/
structure Condition where
  type : String := ""
  status : String := ""
  /- When and why it was last told, and the like. -/
  rest : Json.Members := .empty
deriving DecidableEq, Inhabited

/- Whether the object is known to meet the condition. -/
def Condition.isMet
    (condition : Condition) : Bool :=
  condition.status == "True"

end Redeploy
