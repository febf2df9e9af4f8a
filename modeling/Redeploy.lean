import Redeploy.Api
import Redeploy.Cluster
import Redeploy.Environment
import Redeploy.Readiness
import Redeploy.Rehearsal
import Redeploy.Proofs.Retry.Tries
import Redeploy.Proofs.Workload.Course
import Redeploy.Proofs.Act.Watched
import Redeploy.Proofs.Workload.Event
import Redeploy.Proofs.Workload.Replacement
import Redeploy.Proofs.Cluster.Request
import Redeploy.Proofs.Cluster.Reachable
import Redeploy.Proofs.NodePods.Owned
import Redeploy.Proofs.Object.Renewal
import Redeploy.Proofs.Cluster.Departure
import Redeploy.Proofs.JobController.OnCluster
import Redeploy.Proofs.JobController.Upsert
import Redeploy.Proofs.JobController.Delete
import Redeploy.Proofs.JobController.Rerun
import Redeploy.Proofs.Retry.Engine
import Redeploy.Proofs.JobController.Recorded
import Redeploy.Proofs.Workload.Removal
import Redeploy.Proofs.JobController.Confined
import Redeploy.Proofs.JobController.Residue
import Redeploy.Proofs.CreatedBy
import Redeploy.Proofs.Cluster.Lag
import Redeploy.Proofs.Cluster.Keeping
import Redeploy.Proofs.Cluster.Script
import Redeploy.Proofs.JobController.Commute
import Redeploy.Proofs.JobController.Completion
import Redeploy.Proofs.Selector
import Redeploy.Proofs.NodePods.Collection
import Redeploy.Proofs.NodePods.Deletion
import Redeploy.Proofs.NodePods.Readiness
import Redeploy.Proofs.Failure
import Redeploy.Proofs.JobController.Resubmission
import Redeploy.Proofs.Backoff.Replay
import Redeploy.Proofs.Retry.Waits
import Redeploy.Proofs.Rounding
import Redeploy.Proofs.Backoff.Growth
import Redeploy.Proofs.Backoff.Schedule
import Redeploy.Proofs.Environment
import Redeploy.Proofs.Json.Exactness
import Redeploy.Proofs.CreatedBy.Members
import Redeploy.Proofs.Cluster.Stores
