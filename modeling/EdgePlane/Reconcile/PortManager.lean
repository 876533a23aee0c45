import EdgePlane.Component.PortManager
import EdgePlane.Image
import EdgePlane.Reconcile.Target
import EdgePlane.Setup

/-!
# Bringing the port manager about

The credentials that the port manager logs in with are written once. Later only the change of a password
replaces them.
-/

namespace EdgePlane.Reconcile

/-- The port manager that a control plane declares. -/
def portManagerConfig (settings : Setup) (cp : ControlPlane) (ns : String) :
    PortManager.Config where
  image := settings.images.resolve cp.spec.images.portManager PortManager.name
  proxyImage := settings.images.resolve cp.spec.images.proxy "proxy"
  httpProxyAddress := cp.spec.ingresses.httpProxy.address
  tcpProxyAddress := cp.spec.ingresses.tcpProxy.address
  watchNamespace := ns

/-- The pass over the port manager: its identity, its credentials and its pods. -/
def attemptPortManager (settings : Setup) (cp : ControlPlane) : Attempt Outcome := do
  let target ← Attempt.ofExcept (Target.of cp)
  let ns := target.namespaceName
  let component := PortManager.component (portManagerConfig settings cp ns)
  target.syncIdentity component
  let _ ← target.syncOnce
    (.secret (PortManager.credentialsSecret ns cp.spec.user.email cp.spec.user.password))
  let _ ← target.syncObject (.deployment (component.deployment ns))
  return .proceed

/-- The part of a pass that is about the port manager. -/
def portManager (settings : Setup) (cp : ControlPlane) : Program Outcome :=
  settle (attemptPortManager settings cp)

end EdgePlane.Reconcile
