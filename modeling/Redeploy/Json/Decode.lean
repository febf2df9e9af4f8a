import Redeploy.Json.Basic
import Redeploy.Table

/-
  Taking JSON values apart.

  Key definitions include:
    * `Json.Fault`
    * `Json.optional`
    * `Json.named`
    * `Json.fold`
    * `Json.only`

  A member whose value is null counts as absent.  `fold`
  lets a later member of the same key override an earlier
  one; `only` refuses a key that occurs twice.
-/

------------------------------------------------------------
-- Faults
------------------------------------------------------------

namespace Redeploy

namespace Json

/- Why a value is not of the form that is asked for. -/
inductive Fault where
  | malformed
  | garbledText
  | unexpectedType (expected : String)
  | unexpectedValue (expected : String)
  | outOfRange (literal : String)
  | tooDeep
  | missing (key : String)
  | repeated (key : String)
deriving DecidableEq, Repr

def Fault.text : Fault → String
  | .malformed => "not a JSON text"
  | .garbledText => "half of a surrogate pair in a string"
  | .unexpectedType expected => "expected " ++ expected
  | .unexpectedValue expected => "expected " ++ expected
  | .outOfRange literal => literal ++ " is out of range"
  | .tooDeep => "nested too deeply"
  | .missing key => "missing field " ++ key
  | .repeated key => "duplicate field " ++ key

end Json

end Redeploy

------------------------------------------------------------
-- Leaves
------------------------------------------------------------

namespace Redeploy

namespace Json

/- The text of a string. -/
def asText : Json → Except Fault String
  | .string (some s) => .ok s
  | .string none => .error .garbledText
  | _ => .error (.unexpectedType "a string")

/- The number that a literal without fraction and exponent
   denotes; minus zero denotes none. -/
def literalInt?
    (literal : List Char) : Option Int :=
  match literal with
  | '-' :: digits =>
      if digits.all Char.isDigit && digits != ['0'] then
        (String.ofList digits).toNat?.map fun n => -(n : Int)
      else none
  | digits =>
      if digits.all Char.isDigit then
        (String.ofList digits).toNat?.map fun n => (n : Int)
      else none

/- An integer from `low` to `high`. -/
def asInt
    (low high : Int) : Json → Except Fault Int
  | .number literal =>
      match literalInt? literal.toList with
      | some n =>
          if low ≤ n ∧ n ≤ high then .ok n
          else .error (.outOfRange literal)
      | none => .error (.unexpectedType "an integer")
  | _ => .error (.unexpectedType "an integer")

/- An integer of 32 bits. -/
def asInt32 : Json → Except Fault Int :=
  asInt (-0x80000000) 0x7FFFFFFF

/- An integer of 64 bits. -/
def asInt64 : Json → Except Fault Int :=
  asInt (-0x8000000000000000) 0x7FFFFFFFFFFFFFFF

/- A value that may be null. -/
def optional
    {α : Type}
    (decode : Json → Except Fault α) :
    Json → Except Fault (Option α)
  | .null => .ok none
  | value => (decode value).map some

/- The items of an array. -/
def asArray
    {α : Type}
    (decode : Json → Except Fault α) :
    Json → Except Fault (List α)
  | .array items => items.mapM decode
  | _ => .error (.unexpectedType "an array")

end Json

end Redeploy

------------------------------------------------------------
-- Objects
------------------------------------------------------------

namespace Redeploy

namespace Json

/- The text of a member's key. -/
def keyText : Text → Except Fault String
  | some key => .ok key
  | none => .error .garbledText

/- Members whose keys are texts. -/
def named
    (members : List (Text × Json)) :
    Except Fault (List (String × Json)) :=
  members.mapM fun member => do
    return (← keyText member.1, member.2)

/- Let the members of an object, one after the other, make
   their entries in a record. -/
def fold
    {α : Type}
    (start : α)
    (accept : α → String → Json → Except Fault α) :
    Json → Except Fault α
  | .object members => do
      (← named members).foldlM
        (fun record member =>
          accept record member.1 member.2)
        start
  | _ => .error (.unexpectedType "an object")

/- An object, whatever its members are. -/
def anyObject : Json → Except Fault Unit :=
  fold () fun _ _ _ => .ok ()

/- The value of the one member of a key, if there is one. -/
def only?
    (key : String)
    (members : List (String × Json)) :
    Except Fault (Option Json) :=
  match members.filter (·.1 == key) with
  | [] => .ok none
  | [member] => .ok (some member.2)
  | _ => .error (.repeated key)

/- The value of the one member of a key. -/
def only
    (key : String)
    (members : List (String × Json)) :
    Except Fault Json := do
  match ← only? key members with
  | some value => return value
  | none => throw (.missing key)

/- An object whose values are strings. -/
def asTextTable :
    Json → Except Fault (Table String String) :=
  fold .empty fun table key value => do
    return table.insert key (← value.asText)

end Json

end Redeploy
