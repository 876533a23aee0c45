import EdgePlane.Json.Pointer
import EdgePlane.Kubernetes.Client
import EdgePlane.Main
import EdgePlane.Management.Client
import EdgePlane.Simulation.Watch
import EdgePlane.Proofs.DatabaseRestart
import EdgePlane.Proofs.Ready
import EdgePlane.Proofs.Rotation
import EdgePlane.Proofs.Wakeup
import EdgePlane.Proofs.Phases
import EdgePlane.Proofs.Turns
import EdgePlane.Proofs.Overlap
import EdgePlane.Proofs.Standpoint
import EdgePlane.Proofs.Steady
import EdgePlane.Proofs.Confluence
import EdgePlane.Proofs.TwoPasses
import EdgePlane.Proofs.References
import EdgePlane.Proofs.Reporting
import EdgePlane.Proofs.CreateOnce
import EdgePlane.Proofs.Merge
import EdgePlane.Proofs.Conversation
import EdgePlane.Proofs.Locality
import EdgePlane.Proofs.Namespaces
import EdgePlane.Proofs.Assurance
import EdgePlane.Proofs.Standstill
import EdgePlane.Proofs.RetryDelay
import EdgePlane.Proofs.Availability
import EdgePlane.Proofs.SyncSequence
import EdgePlane.Proofs.ResourceForms
import EdgePlane.Proofs.Provisioning
import EdgePlane.Proofs.SignUp
import EdgePlane.Proofs.Endpoint
import EdgePlane.Proofs.DatabaseEdits
import EdgePlane.Proofs.ImageReference
import EdgePlane.Proofs.ServicePorts
import EdgePlane.Proofs.Exposure
import EdgePlane.Proofs.Trust
import EdgePlane.Proofs.Environment
import EdgePlane.Proofs.StoredPassword
import EdgePlane.Proofs.ServerErrors
import EdgePlane.Proofs.DelaySequence
