import EdgePlane.ControlPlane.Spec
import EdgePlane.Kubernetes.Object

/-!
# Components

A component is described by its containers, its service and what it may do. From the description come
the objects that bring it about in a cluster. Service and deployment share the component's labels, so
the service leads to the pods of the deployment.
-/

namespace EdgePlane

open Kubernetes Text

/-- A service in front of a component. -/
structure ServiceDefinition where
  name : String
  type : String
  /-- The address asked for, empty for none. -/
  loadBalancerIP : String
  ports : List Int32
  deriving Repr, DecidableEq, Inhabited

/-- Whether the service is one that a load balancer leads to. -/
def ServiceDefinition.isLoadBalancer (d : ServiceDefinition) : Bool :=
  equalIgnoringCase d.type ControlPlane.loadBalancerType

/-- A component: its pods, what is in front of them, and what they may do. -/
structure Component where
  name : String := ""
  labels : Dict String String := {}
  annotations : Dict String String := {}
  replicas : Int32 := 0
  /-- The secret that images are pulled with, empty for none. -/
  imagePullSecret : String := ""
  service : Option ServiceDefinition := none
  containers : List Container := []
  volumes : List Volume := []
  rules : List PolicyRule := []
  /-- Whether old pods must be gone before new ones start. -/
  mustRecreate : Bool := false
  availableDelaySeconds : Int32 := 0
  deriving Repr, Inhabited

/-- The text, unless it is empty. -/
def unlessEmpty (s : String) : Option String := if s.isEmpty then none else some s

namespace Component

/-- The metadata of a component's own objects. -/
def metadata (c : Component) (ns : String) : Metadata :=
  { Metadata.named ns c.name with labels := some c.labels }

/-- The account that the pods of a component run as. -/
def serviceAccount (c : Component) (ns : String) : ServiceAccount where
  metadata := c.metadata ns
  imagePullSecrets := (unlessEmpty c.imagePullSecret).map fun name => [⟨name⟩]

/-- The role with what the component may do. -/
def role (c : Component) (ns : String) : Role where
  metadata := c.metadata ns
  rules := some c.rules

/-- The binding of the role to the account, both of which have the component's name. -/
def roleBinding (c : Component) (ns : String) : RoleBinding where
  metadata := c.metadata ns
  roleRef := ⟨rbacGroup, Kind.role.name, c.name⟩
  subjects := some [{ kind := Kind.serviceAccount.name, name := c.name, namespaceName := some ns }]

/-- A port of a service, named by the service and the port's place. -/
def servicePort (service : String) (port : Int32) (place : Nat) : ServicePort where
  name := some (service ++ decimal place)
  port := port
  protocol := some "TCP"
  targetPort := some (.int port)

/-- The service that a definition describes. -/
def serviceOf (c : Component) (ns : String) (d : ServiceDefinition) : Service where
  metadata := { Metadata.named ns d.name with labels := some c.labels }
  spec := some
    { type := some d.type
      externalTrafficPolicy := if d.isLoadBalancer then some "Local" else none
      loadBalancerIP := unlessEmpty d.loadBalancerIP
      selector := some c.labels
      ports := some (d.ports.zipIdx.map fun p => servicePort d.name p.1 p.2) }

/-- The service of a component, if it has one. -/
def serviceObject (c : Component) (ns : String) : Option Service := c.service.map (c.serviceOf ns)

/-- Pods are replaced one by one, or all at once where two must not run side by side. -/
def strategy (c : Component) : DeploymentStrategy :=
  if c.mustRecreate then { type := some "Recreate" }
  else { type := some "RollingUpdate"
         rollingUpdate := some { maxSurge := some (.int 1), maxUnavailable := some (.int 0) } }

/-- The deployment of a component: pods with its labels, which run as its account. -/
def deployment (c : Component) (ns : String) : Deployment where
  metadata := c.metadata ns
  spec := some
    { replicas := some c.replicas
      minReadySeconds := some c.availableDelaySeconds
      selector := { matchLabels := some c.labels }
      strategy := some c.strategy
      template :=
        { metadata := some
            { labels := some c.labels
              annotations := if c.annotations.entries.isEmpty then none else some c.annotations }
          spec := some
            { serviceAccountName := some c.name
              containers := c.containers
              volumes := if c.volumes.isEmpty then none else some c.volumes } } }

end Component

/-- A container that always pulls its image. -/
def containerOf (name image : String) : Container where
  name := name
  image := some image
  imagePullPolicy := some "Always"

/-- The timing of the components' probes. -/
def readinessProbe (initialDelaySeconds : Int32) : Probe where
  initialDelaySeconds := some initialDelaySeconds
  timeoutSeconds := some 10
  periodSeconds := some 5
  failureThreshold := some 2

end EdgePlane
