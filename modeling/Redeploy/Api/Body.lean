import Redeploy.Json.Settled
import Redeploy.Status
import Redeploy.Text.Quoted

/-
  Bodies of replies.

  Key definitions include:
    * `Api.errorStatus`
    * `Api.decode`
    * `Api.listOfJson`
    * `Api.deletedOfJson`

  A body is a JSON text.  Members that nobody asks for are
  skipped, whatever they hold, but for two cases: those of a
  list have to be settled, and so has the answer to a
  deletion as a whole.
-/

------------------------------------------------------------
-- Errors
------------------------------------------------------------

namespace Redeploy

namespace Api

open Json (Fault asText)

/- A text that may be left out. -/
def textOrEmpty : Option Json → Except Fault String
  | some value => value.asText
  | none => .ok ""

/- A status is an object, or its four values in a row. -/
def statusOfJson : Json → Except Fault Status
  | .object members => do
      let members ← Json.named members
      read (← Json.only "status" members)
        (← Json.only? "message" members)
        (← Json.only? "reason" members)
        (← Json.only "code" members)
  | .array [status, message, reason, code] =>
      read status (some message) (some reason) code
  | _ => throw (.unexpectedType "a status")
where
  read
      (status : Json)
      (message reason : Option Json)
      (code : Json) : Except Fault Status := do
    let _ ← status.asText
    return {
      code := (← code.asInt 0 0xFFFF).toNat
      reason := ← textOrEmpty reason
      message := ← textOrEmpty message }

/- The error that a reply of an HTTP status stands for: the
   status in its body, or the body itself. -/
def errorStatus
    (code : Nat)
    (body : String) : Status :=
  let unreadable : Status :=
    { code := code
      reason := "Failed to parse error data"
      message := Text.quoted body }
  match Json.parse? body with
  | some value =>
      match statusOfJson value with
      | .ok status => status
      | .error _ => unreadable
  | none => unreadable

/- What a body holds. -/
def decode
    {α : Type}
    (read : Json → Except Fault α)
    (body : String) : Except ClientError α :=
  match Json.parse? body with
  | some value =>
      (read value).mapError fun fault =>
        .transport fault.text
  | none => .error (.transport Fault.malformed.text)

end Api

end Redeploy

------------------------------------------------------------
-- Lists
------------------------------------------------------------

namespace Redeploy

namespace Api

open Json (Fault optional asText asInt64 asArray)

/- Check the metadata of a list, of which nothing is
   kept. -/
def checkListMetadata : Json → Except Fault Unit :=
  Json.fold () fun _ key value => do
    match key with
    | "continue" | "resourceVersion" | "selfLink" =>
        let _ ← optional asText value
    | "remainingItemCount" =>
        let _ ← optional asInt64 value
    | _ => return

/- The items of a list. -/
def listOfJson
    {α : Type}
    (item : Json → Except Fault α) :
    Json → Except Fault (List α)
  | .object members => do
      let members ← Json.named members
      for (key, value) in members do
        if key ≠ "metadata" ∧ key ≠ "items" then
          value.settle (Json.maxDepth - 1)
      if let some metadata ← Json.only? "metadata" members then
        checkListMetadata metadata
      let items ← Json.only "items" members
      return (← optional (asArray item) items).getD []
  | _ => throw (.unexpectedType "a list")

end Api

end Redeploy

------------------------------------------------------------
-- Deletions
------------------------------------------------------------

namespace Redeploy

namespace Api

open Json (Fault optional asText asInt asArray)

/- Whether a value is a status object. -/
def isStatus : Json → Bool
  | .object members =>
      match members.reverse.find? (·.1 == some "kind") with
      | some (_, .string (some kind)) => kind == "Status"
      | _ => false
  | _ => false

/- Check those members of a record that have a form.  A
   record is an object, in which each of them occurs at most
   once, or their values in a row, as far as it goes. -/
def checkRecord
    (checks : List (String × (Json → Except Fault Unit))) :
    Json → Except Fault Unit
  | .object members => do
      let members ← Json.named members
      for (key, check) in checks do
        if let some value ← Json.only? key members then
          check value
  | .array values => do
      if checks.length < values.length then
        throw (.unexpectedType "a shorter row")
      for ((_, check), value) in checks.zip values do
        check value
  | _ => throw (.unexpectedType "a record")

def checkText
    (value : Json) : Except Fault Unit := do
  let _ ← value.asText

/- Check whether a value is a number up to a limit. -/
def checkNat
    (limit : Nat)
    (value : Json) : Except Fault Unit := do
  let _ ← value.asInt 0 limit

/- The name of a choice, or an object that has it as its
   only key, over null. -/
def choiceName : Json → Except Fault String
  | .object [(key, .null)] => Json.keyText key
  | value => value.asText

/- A status tells whether all went well. -/
def checkOutcome
    (value : Json) : Except Fault Unit := do
  match ← choiceName value with
  | "Success" | "Failure" => return
  | _ => throw (.unexpectedValue "an outcome")

def checkCause : Json → Except Fault Unit :=
  checkRecord
    [("reason", checkText),
     ("message", checkText),
     ("field", checkText)]

def checkDetails : Json → Except Fault Unit :=
  checkRecord
    [("name", checkText),
     ("group", checkText),
     ("kind", checkText),
     ("uid", checkText),
     ("causes", fun value => do
        let _ ← asArray checkCause value),
     ("retryAfterSeconds", checkNat 0xFFFFFFFF)]

/- Check a status, of which nothing is kept. -/
def checkStatus : Json → Except Fault Unit :=
  checkRecord
    [("status", fun value => do
        let _ ← optional checkOutcome value),
     ("code", checkNat 0xFFFF),
     ("message", checkText),
     ("reason", checkText),
     ("details", fun value => do
        let _ ← optional checkDetails value)]

/- The answer to a deletion: a status, or the object. -/
def deletedOfJson
    {α : Type}
    (read : Json → Except Fault α)
    (value : Json) : Except Fault Unit := do
  value.settle Json.maxDepth
  if isStatus value then checkStatus value
  else
    let _ ← read value

end Api

end Redeploy
