import Redeploy.Status

/-
  Failures of a controller.

  Key definitions include:
    * `Failure`
    * `Failure.kind`
    * `Failure.text`
    * `Failure.ofClient`

  A failed request is classified by the code and the reason
  of its status alone.  `compareFailed` is no fault: it says
  that a condition does not hold yet, and is what pollers
  wait on.
-/

------------------------------------------------------------
-- Failures
------------------------------------------------------------

namespace Redeploy

inductive Failure where
  | notFound (message : String)
  | alreadyExists (message : String)
  | accessDenied (message : String)
  | badParameter (message : String)
  | compareFailed (message : String)
  | client (error : ClientError)
deriving DecidableEq, Inhabited

/- The classes of failures. -/
inductive Failure.Kind where
  | notFound
  | alreadyExists
  | accessDenied
  | badParameter
  | compareFailed
  | unknown
deriving DecidableEq, Repr

namespace Failure

def kind : Failure → Kind
  | .notFound _ => .notFound
  | .alreadyExists _ => .alreadyExists
  | .accessDenied _ => .accessDenied
  | .badParameter _ => .badParameter
  | .compareFailed _ => .compareFailed
  | .client _ => .unknown

def isNotFound
    (f : Failure) : Bool :=
  f.kind == .notFound

def isCompareFailed
    (f : Failure) : Bool :=
  f.kind == .compareFailed

def text : Failure → String
  | .notFound message => "Not found: " ++ message
  | .alreadyExists message => "Already exists: " ++ message
  | .accessDenied message => "Access denied: " ++ message
  | .badParameter message => "Bad parameter: " ++ message
  | .compareFailed message => "Compare failed: " ++ message
  | .client error => error.text

end Failure

end Redeploy

------------------------------------------------------------
-- Classification
------------------------------------------------------------

namespace Redeploy

namespace Failure

/- What a status says, with its details. -/
def statusText
    (s : Status) : String :=
  match s.details with
  | some details =>
      if details.isEmpty then s.message
      else s.message ++ ", details: " ++ details.text
  | none => s.message

/- What a status says of an attempt; an empty context says
   nothing. -/
def contextText
    (context : String)
    (s : Status) : String :=
  if context = "" then statusText s
  else context ++ ": " ++ statusText s

/-
  The failure that a failed request amounts to.  An error
  that belongs to no class is kept as it is.
-/
def ofClient
    (context : String) : ClientError → Failure
  | .status s =>
      if s.code = 409 ∧ s.reason = Status.reasonAlreadyExists
      then .alreadyExists (contextText context s)
      else if s.code = 404 then
        .notFound (contextText context s)
      else if s.code = 403 then
        .accessDenied (contextText context s)
      else .client (.status s)
  | error => .client error

end Failure

end Redeploy
