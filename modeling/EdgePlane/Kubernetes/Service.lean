import EdgePlane.Kubernetes.Metadata
import EdgePlane.Kubernetes.Shape.Service

/-!
# Services

A service: the ports it announces, the pods it leads to, and the addresses that a load balancer was
given for it.
-/

namespace EdgePlane.Kubernetes

/-- A port that a service announces, and the one of the pods that it leads to. -/
structure ServicePort where
  name : Option String := none
  port : Int32 := 0
  protocol : Option String := none
  targetPort : Option IntOrString := none
  other : List (String × Json) := []
  deriving Repr, Inhabited

/-- The form of a port. -/
def ServicePort.codec : Codec ServicePort :=
  (Fields.of ServicePort.mk
    |>.and (.optional "name" name .text)
    |>.and (.defaulted "port" port .int32 0)
    |>.and (.optional "protocol" protocol .text)
    |>.and (.optional "targetPort" targetPort IntOrString.codec)
    |>.others other).manifest ServicePort.shape

/-- What a service is meant to be. -/
structure ServiceSpec where
  type : Option String := none
  externalTrafficPolicy : Option String := none
  loadBalancerIP : Option String := none
  selector : Option (Dict String String) := none
  ports : Option (List ServicePort) := none
  other : List (String × Json) := []
  deriving Repr, Inhabited

/-- The form of what a service is meant to be. -/
def ServiceSpec.codec : Codec ServiceSpec :=
  (Fields.of ServiceSpec.mk
    |>.and (.optional "type" type .text)
    |>.and (.optional "externalTrafficPolicy" externalTrafficPolicy .text)
    |>.and (.optional "loadBalancerIP" loadBalancerIP .text)
    |>.and (.optional "selector" selector (.dict .text))
    |>.and (.optional "ports" ports (.list ServicePort.codec))
    |>.others other).manifest ServiceSpec.shape

/-- An address where a load balancer can be reached. -/
structure Ingress where
  ip : Option String := none
  hostname : Option String := none
  other : List (String × Json) := []
  deriving Repr, Inhabited

/-- The form of such an address. -/
def Ingress.codec : Codec Ingress :=
  (Fields.of Ingress.mk
    |>.and (.optional "ip" ip .text)
    |>.and (.optional "hostname" hostname .text)
    |>.others other).manifest Ingress.shape

/-- The addresses of a load balancer. -/
structure LoadBalancer where
  ingress : Option (List Ingress) := none
  deriving Repr, Inhabited

/-- The form of a load balancer. -/
def LoadBalancer.codec : Codec LoadBalancer :=
  (Fields.of LoadBalancer.mk
    |>.and (.optional "ingress" ingress (.list Ingress.codec))).manifest LoadBalancer.shape

/-- What the cluster reports of a service. -/
structure ServiceStatus where
  loadBalancer : Option LoadBalancer := none
  other : List (String × Json) := []
  deriving Repr, Inhabited

/-- The form of what is reported. -/
def ServiceStatus.codec : Codec ServiceStatus :=
  (Fields.of ServiceStatus.mk
    |>.and (.optional "loadBalancer" loadBalancer LoadBalancer.codec)
    |>.others other).manifest ServiceStatus.shape

/-- A service and what is reported of it. -/
structure Service where
  metadata : Metadata := {}
  spec : Option ServiceSpec := none
  status : Option ServiceStatus := none
  deriving Repr, Inhabited

namespace Service

/-- The form of a service. -/
def codec : Codec Service :=
  typed "v1" "Service" <| (Fields.of Service.mk
    |>.and (metadataField metadata)
    |>.and (.optional "spec" spec ServiceSpec.codec)
    |>.and (.optional "status" status ServiceStatus.codec)).manifest Service.shape

/-- The text, unless it is empty. -/
def nonEmpty (s : Option String) : Option String := s.filter fun s => !s.isEmpty

/-- The address of an ingress: its number, or else its name. -/
def ingressAddress (ingress : Ingress) : Option String :=
  (nonEmpty ingress.ip).or (nonEmpty ingress.hostname)

/-- The first address that was given to the service's load balancer. -/
def externalAddress (service : Service) : Option String := do
  let status ← service.status
  let balancer ← status.loadBalancer
  let ingresses ← balancer.ingress
  ingresses.findSome? ingressAddress

/-- The report on a service whose load balancer was given an address. -/
def statusAt (ip : String) : ServiceStatus :=
  { loadBalancer := some { ingress := some [{ ip := some ip }] } }

end Service

end EdgePlane.Kubernetes
