import Redeploy.Json.Decode
import Redeploy.Json.Magnitude

/-
  Values that can be kept without their text.

  Key definitions include:
    * `Json.maxDepth`
    * `Json.settle`

  A value is settled if every string in it names characters,
  every number has a double and nothing nests too deeply.
  What a reader skips need not be settled.
-/

------------------------------------------------------------
-- Leaves
------------------------------------------------------------

namespace Redeploy

namespace Json

/- How deeply a settled value may nest, itself included. -/
def maxDepth : Nat := 127

/- Refuse a number that no double is near. -/
def settleNumber
    (literal : String) : Except Fault Unit :=
  match Scaled.ofLiteral? literal.toList with
  | some s =>
      if s.hasDouble then .ok ()
      else .error (.outOfRange literal)
  | none => .error .malformed

/- Refuse a string that names no characters. -/
def settleText : Text → Except Fault Unit
  | some _ => .ok ()
  | none => .error .garbledText

end Json

end Redeploy

------------------------------------------------------------
-- Values
------------------------------------------------------------

namespace Redeploy

namespace Json

mutual

/- Refuse a value that is not settled, or that nests deeper
   than some levels. -/
def settle
    (levels : Nat) : Json → Except Fault Unit
  | .null => .ok ()
  | .bool _ => .ok ()
  | .number literal => settleNumber literal
  | .string text => settleText text
  | .array items =>
      match levels with
      | 0 => .error .tooDeep
      | below + 1 => settleItems below items
  | .object members =>
      match levels with
      | 0 => .error .tooDeep
      | below + 1 => settleMembers below members

def settleItems
    (levels : Nat) : List Json → Except Fault Unit
  | [] => .ok ()
  | item :: rest => do
      settle levels item
      settleItems levels rest

def settleMembers
    (levels : Nat) :
    List (Text × Json) → Except Fault Unit
  | [] => .ok ()
  | (key, value) :: rest => do
      settleText key
      settle levels value
      settleMembers levels rest

end

end Json

end Redeploy
