import Redeploy.Text.Lowercase

/-
  Errors that the API server reports, and other ways in which
  a request fails.

  Key definitions include:
    * `Status`
    * `Status.notFound`, `Status.alreadyExists`
    * `StatusDetails.text`
    * `ClientError`
    * `ClientError.about`

  A status names the object it is about in its details; a
  status that comes without them is given the object of the
  request.
-/

------------------------------------------------------------
-- Details
------------------------------------------------------------

namespace Redeploy

/- One cause of a status, at a field of the object. -/
structure StatusCause where
  reason : String := ""
  message : String := ""
  field : String := ""
deriving DecidableEq, Inhabited

def StatusCause.text
    (cause : StatusCause) : String :=
  let base := cause.reason ++ ": " ++ cause.message
  if cause.field = "" then base
  else base ++ " (" ++ cause.field ++ ")"

/- The object that a status is about. -/
structure StatusDetails where
  name : String := ""
  group : String := ""
  kind : String := ""
  causes : List StatusCause := []
deriving DecidableEq, Inhabited

namespace StatusDetails

/- Details that name an object. -/
def about
    (kind name : String) : StatusDetails where
  name := name
  kind := Text.lowercase kind

def isEmpty
    (d : StatusDetails) : Bool :=
  d.name = "" && d.group = "" && d.kind = "" &&
    d.causes.isEmpty

/- A part of the text, if there is anything to say. -/
def part
    (label value : String) : List String :=
  if value = "" then [] else [label ++ "=" ++ value]

/- The parts that say anything. -/
def text
    (d : StatusDetails) : String :=
  let causes :=
    if d.causes.isEmpty then []
    else
      ["causes=[" ++
        "; ".intercalate (d.causes.map StatusCause.text) ++
        "]"]
  ", ".intercalate
    (part "name" d.name ++ part "group" d.group ++
      part "kind" d.kind ++ causes)

end StatusDetails

end Redeploy

------------------------------------------------------------
-- Status
------------------------------------------------------------

namespace Redeploy

/- An error that the server reports. -/
structure Status where
  code : Nat
  reason : String
  message : String
  details : Option StatusDetails := none
deriving DecidableEq, Inhabited

namespace Status

/- The reason of a creation that meets an object of the same
   name. -/
def reasonAlreadyExists : String := "AlreadyExists"

/- How messages of the server call an object. -/
def objectText
    (kind name : String) : String :=
  Text.lowercase kind ++ "s \"" ++ name ++ "\""

def notFound
    (kind name : String) : Status where
  code := 404
  reason := "NotFound"
  message := objectText kind name ++ " not found"
  details := some (.about kind name)

def alreadyExists
    (kind name : String) : Status where
  code := 409
  reason := reasonAlreadyExists
  message := objectText kind name ++ " already exists"
  details := some (.about kind name)

def forbidden
    (kind name : String) : Status where
  code := 403
  reason := "Forbidden"
  message := objectText kind name ++ " is forbidden"

def internal
    (message : String) : Status where
  code := 500
  reason := "InternalError"
  message := message

def withDetails
    (s : Status)
    (details : StatusDetails) : Status :=
  { s with details := some details }

/- Name the object of the request, if no object is named. -/
def about
    (kind name : String)
    (s : Status) : Status :=
  match s.details with
  | none => s.withDetails (.about kind name)
  | some _ => s

end Status

end Redeploy

------------------------------------------------------------
-- Failed Requests
------------------------------------------------------------

namespace Redeploy

/- Why a request has no result. -/
inductive ClientError where
  | status (status : Status)
  | transport (cause : String)
  | encoding (cause : String)
deriving DecidableEq, Inhabited

namespace ClientError

def status? : ClientError → Option Status
  | .status s => some s
  | _ => none

def text : ClientError → String
  | .status s => s.message
  | .transport cause => "Kubernetes client error: " ++ cause
  | .encoding cause => "Serialization error: " ++ cause

/- Name the object of the request in a status without
   details. -/
def about
    (kind name : String) : ClientError → ClientError
  | .status s => .status (s.about kind name)
  | e => e

end ClientError

end Redeploy
