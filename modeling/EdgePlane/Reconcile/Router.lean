import EdgePlane.Component.Router
import EdgePlane.Image
import EdgePlane.Reconcile.Target
import EdgePlane.Setup

/-!
# Bringing the router about

The router's identity and service come first. Its certificates are issued for the address at which it is
reached from outside, so the pass waits until a load balancer has one. The authority that signs them is
made once and kept.
-/

namespace EdgePlane.Reconcile

open Kubernetes

/-- The router that a control plane declares. -/
def routerConfig (settings : Setup) (cp : ControlPlane) : Router.Config where
  image := settings.images.resolve cp.spec.images.router Router.name
  serviceType := cp.spec.services.router.serviceType
  loadBalancerIP := cp.spec.services.router.address

/-- The outcome while something outside has to settle. -/
def waiting (settings : Setup) : Outcome := .requeueIn settings.requeueDelay

/-- The address of the router from outside: that of its load balancer, if it has been given one, or the
address of the ingress. -/
def routerAddress (cp : ControlPlane) (ns : String) : Attempt (Option String) :=
  let exposure := cp.spec.services.router
  let address := cp.spec.ingresses.router.address
  if exposure.isLoadBalancer then Attempt.discoverAddress ns Router.name
  else if address.isEmpty then
    throw (.validation ("router service type is " ++ exposure.serviceType ++
      " but ingresses.router.address is empty"))
  else return some address

/-- The authority: the one that is kept, or a new one, which is kept from now on. -/
def routerAuthority (pem : PemReader) (target : Target) : Attempt KeyedCertificate := do
  let ns := target.namespaceName
  match ← Attempt.getSecret ns Router.authoritySecretName with
  | some secret => Attempt.ofExcept ((KeyedCertificate.ofSecret pem secret).mapError .issuer)
  | none =>
    let ca := KeyedCertificate.authority Router.authoritySecretName (← Attempt.drawKey)
    let _ ← target.syncOnce (.secret (ca.authoritySecret Router.authoritySecretName ns))
    return ca

/-- Issues a certificate for an address and stores it in a secret. -/
def syncLeaf (target : Target) (ca : KeyedCertificate) (address name : String) : Attempt Unit := do
  let alternative ← Attempt.ofExcept ((KeyedCertificate.alternativeName address).mapError .issuer)
  let leaf := ca.issue address alternative (← Attempt.drawKey)
  let _ ← target.syncObject (.secret (leaf.secret name target.namespaceName ca.certificate))

/-- The pass over the router: its service, the certificates for its address, and its pods. -/
def attemptRouter (settings : Setup) (cp : ControlPlane) : Attempt Outcome := do
  let target ← Attempt.ofExcept (Target.of cp)
  let component := Router.component (routerConfig settings cp)
  target.syncIdentity component
  target.syncService component
  match ← routerAddress cp target.namespaceName with
  | none => return waiting settings
  | some address =>
    let ca ← routerAuthority settings.pem target
    Router.leafSecretNames.forM (syncLeaf target ca address)
    let _ ← target.syncObject (.deployment (component.deployment target.namespaceName))
    return .proceed

/-- The part of a pass that is about the router. -/
def router (settings : Setup) (cp : ControlPlane) : Program Outcome :=
  settle (attemptRouter settings cp)

end EdgePlane.Reconcile
