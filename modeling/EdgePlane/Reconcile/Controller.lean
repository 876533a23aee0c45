import EdgePlane.Bootstrap
import EdgePlane.Component.Controller
import EdgePlane.Component.PortManager
import EdgePlane.Net.Url
import EdgePlane.Reconcile.Router

/-!
# Bringing the controller about

The controller's objects come first; a controller that was only just deployed is given time to start.
After that it is bootstrapped over its management interface: it has to serve, the operator's user has to
be able to log in, and the router has to be registered. Behind a load balancer it also has to answer
from outside.
-/

namespace EdgePlane.Reconcile

open Kubernetes Management

/-- The secrets that images are pulled with have this type. -/
def pullSecretType : String := "kubernetes.io/dockerconfigjson"

/-- The secret that images are pulled with must exist and have the right type. -/
def verifyPullSecret (ns name : String) : Attempt Unit := do
  match ← Attempt.getSecret ns name with
  | none => throw (.validation ("image pull secret " ++ ns ++ "/" ++ name ++ " does not exist"))
  | some secret =>
    if secret.type = some pullSecretType then return ()
    else throw (.validation ("image pull secret " ++ ns ++ "/" ++ name ++ " has type " ++
      secret.type.getD "Opaque" ++ ", expected " ++ pullSecretType))

/-- The controller that a control plane declares. -/
def controllerConfig (settings : Setup) (cp : ControlPlane) : Controller.Config where
  replicas := cp.spec.replicas.controller
  image := settings.images.resolve cp.spec.images.controller Controller.name
  imagePullSecret := cp.spec.images.pullSecret
  serviceType := cp.spec.services.controller.serviceType
  loadBalancerIP := cp.spec.services.controller.address
  database := cp.spec.database
  proxyImage := settings.images.resolve cp.spec.images.proxy "proxy"
  routerImage := settings.images.resolve cp.spec.images.router Router.name
  portProvider := cp.spec.controller.portProvider
  portAllocatorHost := cp.spec.controller.portAllocatorHost
  ecnName := cp.spec.controller.ecnName
  pidBaseDir := cp.spec.controller.pidBaseDir
  ecnViewerPort := cp.spec.controller.ecnViewerPort
  ecnViewerUrl := cp.spec.controller.ecnViewerUrl

/-- The host name of the controller inside the cluster. -/
def internalHost (ns : String) : String := Controller.name ++ "." ++ ns ++ ".svc"

/-- The URL of the controller inside the cluster. -/
def internalUrl (ns : String) : String := Net.apiBaseUrl (internalHost ns) Controller.apiPort

/-- The port, or the usual one if none is given. -/
def portOr (port usual : Int32) : Int32 := if port = 0 then usual else port

/-- The registration of a router at a host. A load balancer leads to the usual ports, an ingress to the
ones it names. -/
def registration (cp : ControlPlane) (host : String) : DefaultRouter :=
  let ingress := cp.spec.ingresses.router
  if cp.spec.services.router.isLoadBalancer then
    ⟨host, some Router.messagePort, some Router.edgePort, some Router.interiorPort⟩
  else
    ⟨host, some (portOr ingress.messagePort Router.messagePort),
      some (portOr ingress.edgePort Router.edgePort),
      some (portOr ingress.interiorPort Router.interiorPort)⟩

/-- Asks once for the status of the controller from outside. -/
def probeExternal (address : String) : Attempt Unit := do
  let url := Net.apiBaseUrl address Controller.apiPort
  Attempt.connect url
  Bootstrap.waitUntilAvailable url ⟨1, .zero⟩

/-- The password that the port manager still holds. -/
def storedPassword (ns email : String) : Attempt Credential := do
  let place := ns ++ "/" ++ PortManager.credentialsSecretName
  match ← Attempt.getSecret ns PortManager.credentialsSecretName with
  | none => throw (.reconciliation ("cannot rotate password of " ++ email ++ ": secret " ++ place ++
      " not found"))
  | some secret =>
    match secret.text? PortManager.passwordKey with
    | none => throw (.reconciliation ("secret " ++ place ++ " has no " ++ PortManager.passwordKey ++
        " key"))
    | some encoded => return ⟨encoded⟩

/-- Moves the user from the password that the port manager holds to the declared one, and passes the new
one on to the port manager. -/
def rotatePassword (target : Target) (url : String) (user : ControlPlane.User) : Attempt Session := do
  let ns := target.namespaceName
  let previous ← storedPassword ns user.email
  let session ← Bootstrap.rotatePassword url user.email previous.decode user.password.decode
  let _ ← target.syncObject (.secret (PortManager.credentialsSecret ns user.email user.password))
  if (← Attempt.get ⟨.deployment, ns, PortManager.name⟩).isSome then
    Attempt.restart ns PortManager.name
  return session

/-- A login of the declared user, with a change of the password if it was not accepted. -/
def openSession (target : Target) (url : String) (user : ControlPlane.User) : Attempt Session :=
  tryCatch (Bootstrap.ensureUser url user) fun failure =>
    if failure.isInvalidCredentials then rotatePassword target url user else throw failure

/-- Brings the objects of the controller about. The results are whether the deployment existed before,
and whether settings of the database changed. -/
def syncController (settings : Setup) (target : Target) (cp : ControlPlane) :
    Attempt (Bool × Bool) := do
  let ns := target.namespaceName
  let component := Controller.component (controllerConfig settings cp)
  target.syncIdentity component
  let desired := Controller.databaseSecret ns cp.spec.database
  let changed := (← Attempt.getSecret ns Controller.databaseSecretName).any (·.isChangedBy desired)
  let _ ← target.syncObject (.secret desired)
  target.syncService component
  if !cp.spec.database.isExternal then
    let _ ← target.syncObject (.volumeClaim (Controller.claim ns))
  let deployment ← target.syncObject (.deployment (component.deployment ns))
  return (deployment.existed, changed)

/-- Bootstraps a controller that was deployed by an earlier pass. -/
def bootstrapController (settings : Setup) (target : Target) (cp : ControlPlane) :
    Attempt Outcome := do
  let ns := target.namespaceName
  let url := internalUrl ns
  Attempt.connect url
  Bootstrap.waitUntilAvailable url settings.retry
  let session ← openSession target url cp.spec.user
  match ← routerAddress cp ns with
  | none => return waiting settings
  | some host =>
    Bootstrap.registerRouter url session (registration cp host)
    if !cp.spec.services.controller.isLoadBalancer then return .proceed
    match ← Attempt.discoverAddress ns Controller.name with
    | none => return waiting settings
    | some address =>
      tryCatch (do probeExternal address; return .proceed) fun _ => return waiting settings

/-- Brings the objects of the controller about, and bootstraps it if it was deployed before. Settings of
the database that changed take new pods. -/
def driveController (settings : Setup) (target : Target) (cp : ControlPlane) : Attempt Outcome := do
  let (existed, changed) ← syncController settings target cp
  if !existed then return waiting settings
  if changed then Attempt.restart target.namespaceName Controller.name
  bootstrapController settings target cp

/-- The pass over the controller. The secret that images are pulled with must be there before anything else. -/
def attemptController (settings : Setup) (cp : ControlPlane) : Attempt Outcome := do
  let target ← Attempt.ofExcept (Target.of cp)
  let pullSecret := cp.spec.images.pullSecret
  if !pullSecret.isEmpty then verifyPullSecret target.namespaceName pullSecret
  driveController settings target cp

/-- The part of a pass that is about the controller. -/
def controller (settings : Setup) (cp : ControlPlane) : Program Outcome :=
  settle (attemptController settings cp)

end EdgePlane.Reconcile
