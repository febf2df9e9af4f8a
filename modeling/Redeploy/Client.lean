import Redeploy.Act
import Redeploy.Object.Job
import Redeploy.Object.Pod

/-
  Access to a cluster.

  Key definitions include:
    * `Client`
    * `Client.zoom`
    * `Client.request`

  A client is a choice of six actions on some system that
  stands for the cluster, or for the way to it.
-/

------------------------------------------------------------
-- Clients
------------------------------------------------------------

namespace Redeploy

/- The requests that a controller makes. -/
structure Client (σ : Type) where
  getJob : ObjectKey → Act ClientError σ Job
  /- The namespace is the one that the job names. -/
  createJob : Job → Act ClientError σ Job
  /- Without a propagation the server chooses one. -/
  deleteJob :
    ObjectKey → Option Propagation → Act ClientError σ Unit
  /- By namespace and selector. -/
  listPods : String → String → Act ClientError σ (List Pod)
  deletePod : ObjectKey → Act ClientError σ Unit
  /- By selector. -/
  listNodes : String → Act ClientError σ (List Node)

/- A client of a part of a system. -/
def Client.zoom
    {σ τ : Type}
    (get : σ → τ)
    (set : σ → τ → σ)
    (client : Client τ) : Client σ where
  getJob key := (client.getJob key).zoom get set
  createJob job := (client.createJob job).zoom get set
  deleteJob key propagation :=
    (client.deleteJob key propagation).zoom get set
  listPods ns selector :=
    (client.listPods ns selector).zoom get set
  deletePod key := (client.deletePod key).zoom get set
  listNodes selector :=
    (client.listNodes selector).zoom get set

/- A request whose failure is classified. -/
def Client.request
    {σ α : Type}
    (act : Act ClientError σ α) : Act Failure σ α :=
  act.mapError (Failure.ofClient "")

end Redeploy
