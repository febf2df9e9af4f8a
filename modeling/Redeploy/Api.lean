import Redeploy.Api.Body
import Redeploy.Api.Target
import Redeploy.Client
import Redeploy.Object.Wire

/-
  The cluster's API over HTTP.

  Key definitions include:
    * `Request`, `Reply`
    * `Exchange`
    * `Exchange.send`
    * `Api.request`
    * `Api.client`

  A reply with a status from 400 to 599 is an error.  The
  body of any other reply has to be what was asked for.  A
  request whose target cannot be read is not sent.
-/

------------------------------------------------------------
-- Exchanges
------------------------------------------------------------

namespace Redeploy

structure Request where
  method : String
  target : Target
  body : Option Json := none

inductive Reply where
  | response (status : Nat) (body : String)
  /- The connection fails. -/
  | broken
deriving DecidableEq

/- The replies that a server has ready and the requests that
   it got. -/
structure Exchange where
  replies : List Reply := []
  requests : List Request := []

namespace Exchange

/- Send a request and take the next reply; without one the
   connection fails. -/
def send
    (request : Request)
    (x : Exchange) : Reply × Exchange :=
  (x.replies.head?.getD .broken,
    { replies := x.replies.tail
      requests := x.requests ++ [request] })

end Exchange

end Redeploy

------------------------------------------------------------
-- Requests
------------------------------------------------------------

namespace Redeploy

namespace Api

open Json (Fault)

/- Whether an HTTP status is that of an error. -/
def isErrorCode
    (code : Nat) : Bool :=
  400 ≤ code && code < 600

/- What a reply has to say, its body read in a given way. -/
def resultOf
    {α : Type}
    (read : Json → Except Fault α) :
    Reply → Except ClientError α
  | .broken => .error (.transport "connection failed")
  | .response code body =>
      if isErrorCode code then
        .error (.status (errorStatus code body))
      else decode read body

/- Send a request and read the reply. -/
def request
    {α : Type}
    (read : Json → Except Fault α)
    (method target : String)
    (body : Option Json) : Act ClientError Exchange α :=
  match Target.parse? target with
  | none => .fail (.transport "not a target")
  | some target =>
      .ofStep fun x =>
        let (reply, x) := x.send { method, target, body }
        (resultOf read reply, x)

/- Act on the object of a name, which must not be empty. -/
def onNamed
    {α : Type}
    (name : String)
    (act : Act ClientError Exchange α) :
    Act ClientError Exchange α :=
  if name = "" then
    .fail (.transport "a name is required")
  else act

def jobsPath
    (ns : String) : String :=
  "/apis/batch/v1/namespaces/" ++ ns ++ "/jobs"

def podsPath
    (ns : String) : String :=
  "/api/v1/namespaces/" ++ ns ++ "/pods"

def nodesPath : String := "/api/v1/nodes"

/- The target of a list; an empty selector asks nothing. -/
def listTarget
    (path selector : String) : String :=
  path ++ "?" ++
    (if selector = "" then ""
     else "&labelSelector=" ++ Text.Form.encode selector)

/- The body of a deletion. -/
def deleteOptions
    (propagation : Option Propagation) : Json :=
  .ofMembers
    [("propagationPolicy",
      propagation.map fun p => .ofText p.name)]

end Api

end Redeploy

------------------------------------------------------------
-- Client
------------------------------------------------------------

namespace Redeploy

namespace Api

open Json (Fault)

/- Tell of a call, then make it. -/
def noted
    {α : Type}
    (call : Call)
    (act : Act ClientError Exchange α) :
    Act ClientError Exchange α := do
  .note (.requesting call)
  act

/- The namespace of a job that names none. -/
def defaultNamespace : String := "default"

/- Get an object of a collection. -/
def get
    {α : Type}
    (read : Json → Except Fault α)
    (path name : String) : Act ClientError Exchange α :=
  onNamed name
    (request read "GET" (path ++ "/" ++ name) none)

/- Delete an object of a collection. -/
def delete
    {α : Type}
    (read : Json → Except Fault α)
    (path name : String)
    (propagation : Option Propagation) :
    Act ClientError Exchange Unit :=
  onNamed name
    (request (deletedOfJson read) "DELETE"
      (path ++ "/" ++ name ++ "?")
      (some (deleteOptions propagation)))

/- The objects of a collection that a selector selects. -/
def list
    {α : Type}
    (read : Json → Except Fault α)
    (path selector : String) :
    Act ClientError Exchange (List α) :=
  request (listOfJson read) "GET"
    (listTarget path selector) none

/- Add a job to the collection of its namespace. -/
def createJob
    (job : Job) : Act ClientError Exchange Job :=
  let key : ObjectKey :=
    { ns := job.metadata.ns.getD defaultNamespace
      name := job.metadata.nameText }
  noted (.createJob key)
    ((request Job.ofJson "POST" (jobsPath key.ns ++ "?")
        (some job.toJson)).mapError
      (.about Job.kind key.name))

/- The cluster behind an exchange of requests. -/
def client : Client Exchange where
  getJob key :=
    noted (.getJob key)
      ((get Job.ofJson (jobsPath key.ns) key.name).mapError
        (.about Job.kind key.name))
  createJob := createJob
  deleteJob key propagation :=
    noted (.deleteJob key propagation)
      ((delete Job.ofJson (jobsPath key.ns) key.name
          propagation).mapError
        (.about Job.kind key.name))
  listPods ns selector :=
    noted (.listPods ns selector)
      (list Pod.ofJson (podsPath ns) selector)
  deletePod key :=
    noted (.deletePod key)
      ((delete Pod.ofJson (podsPath key.ns) key.name
          none).mapError
        (.about Pod.kind key.name))
  listNodes selector :=
    noted (.listNodes selector)
      (list Node.ofJson nodesPath selector)

end Api

end Redeploy
