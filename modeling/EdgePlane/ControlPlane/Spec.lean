import EdgePlane.Credential
import EdgePlane.Text.Search

/-!
# The specification of a control plane

What users declare: how many replicas, which images, which database, how services are exposed, the user
of the management interface, the addresses of ingresses, and settings of the controller. Everything but
the user may be left out.
-/

namespace EdgePlane

open Text

namespace ControlPlane

/-- How many pods are asked for. -/
structure Replicas where
  controller : Int32 := 1
  deriving Repr, DecidableEq, Inhabited

/-- The form of such numbers. -/
def Replicas.codec : Codec Replicas :=
  (Fields.of Replicas.mk
    |>.and (.about (.defaulted "controller" controller .int32 1)
      "Controller deployment replicas")).record

/-- The images of the components; an empty one stands for the operator's default. -/
structure Images where
  controller : String := ""
  router : String := ""
  portManager : String := ""
  proxy : String := ""
  pullSecret : String := ""
  deriving Repr, DecidableEq, Inhabited

/-- The form of a choice of images. -/
def Images.codec : Codec Images :=
  (Fields.of Images.mk
    |>.and (.defaulted "controller" controller .text "")
    |>.and (.defaulted "router" router .text "")
    |>.and (.defaulted "portManager" portManager .text "")
    |>.and (.defaulted "proxy" proxy .text "")
    |>.and (.about (.defaulted "pullSecret" pullSecret .text "")
      "Name of a `kubernetes.io/dockerconfigjson` secret attached to service accounts")).record

/-- The database of the controller. -/
structure Database where
  provider : String := ""
  host : String := ""
  port : Int32 := 0
  user : String := ""
  password : String := ""
  databaseName : String := ""
  deriving Repr, DecidableEq, Inhabited

namespace Database

/-- The form of a database. -/
def codec : Codec Database :=
  (Fields.of Database.mk
    |>.and (.defaulted "provider" provider .text "")
    |>.and (.defaulted "host" host .text "")
    |>.and (.defaulted "port" port .int32 0)
    |>.and (.defaulted "user" user .text "")
    |>.and (.defaulted "password" password .text "")
    |>.and (.defaulted "databaseName" databaseName .text "")).record

/-- Whether the controller uses a database outside its own pod: one with a host. -/
def isExternal (d : Database) : Bool := !d.host.isEmpty

end Database

/-- How a service is exposed. -/
structure Exposure where
  type : String := ""
  address : String := ""
  deriving Repr, DecidableEq, Inhabited

/-- The type of a service that a load balancer leads to. -/
def loadBalancerType : String := "LoadBalancer"

namespace Exposure

/-- The form of an exposure. -/
def codec : Codec Exposure :=
  (Fields.of Exposure.mk
    |>.and (.about (.defaulted "type" type .text "")
      "Kubernetes service type. Empty defaults to `LoadBalancer`.")
    |>.and (.about (.defaulted "address" address .text "")
      "Requested load balancer IP")).record

/-- The type of the service; an empty one stands for a load balancer. -/
def serviceType (e : Exposure) : String := if e.type.isEmpty then loadBalancerType else e.type

/-- Whether the address of the service is one that a load balancer is given. -/
def isLoadBalancer (e : Exposure) : Bool := equalIgnoringCase e.serviceType loadBalancerType

end Exposure

/-- How the services of the components are exposed. -/
structure Services where
  controller : Exposure := {}
  router : Exposure := {}
  deriving Repr, DecidableEq, Inhabited

/-- The form of the exposures of all services. -/
def Services.codec : Codec Services :=
  (Fields.of Services.mk
    |>.and (.defaulted "controller" controller Exposure.codec {})
    |>.and (.defaulted "router" router Exposure.codec {})).record

/-- The operator's user of the management interface. -/
structure User where
  name : String
  surname : String
  email : String
  password : Credential
  deriving Repr, DecidableEq, Inhabited

namespace User

/-- The form of a user. -/
def codec : Codec User :=
  (Fields.of User.mk
    |>.and (.required "name" name .text)
    |>.and (.required "surname" surname .text)
    |>.and (.required "email" email .text)
    |>.and (.about (.required "password" password Credential.codec) "Base64 encoded password")).record

/-- The user as shown inside other values: the password stays hidden. -/
def debug (u : User) : String :=
  "User \x7b name: " ++ quoted u.name ++ ", surname: " ++ quoted u.surname ++ ", email: " ++
    quoted u.email ++ ", password: " ++ u.password.debug ++ " \x7d"

end User

/-- The address and the ports at which the router is reached without a load balancer. -/
structure RouterIngress where
  address : String := ""
  messagePort : Int32 := 0
  interiorPort : Int32 := 0
  edgePort : Int32 := 0
  deriving Repr, DecidableEq, Inhabited

/-- The form of an ingress to the router. -/
def RouterIngress.codec : Codec RouterIngress :=
  (Fields.of RouterIngress.mk
    |>.and (.defaulted "address" address .text "")
    |>.and (.defaulted "messagePort" messagePort .int32 0)
    |>.and (.defaulted "interiorPort" interiorPort .int32 0)
    |>.and (.defaulted "edgePort" edgePort .int32 0)).record

/-- The address at which a proxy is reached. -/
structure ProxyIngress where
  address : String := ""
  deriving Repr, DecidableEq, Inhabited

/-- The form of an ingress to a proxy. -/
def ProxyIngress.codec : Codec ProxyIngress :=
  (Fields.of ProxyIngress.mk |>.and (.defaulted "address" address .text "")).record

/-- The addresses at which the components are reached without a load balancer. -/
structure Ingresses where
  router : RouterIngress := {}
  httpProxy : ProxyIngress := {}
  tcpProxy : ProxyIngress := {}
  deriving Repr, DecidableEq, Inhabited

/-- The form of all ingresses. -/
def Ingresses.codec : Codec Ingresses :=
  (Fields.of Ingresses.mk
    |>.and (.defaulted "router" router RouterIngress.codec {})
    |>.and (.defaulted "httpProxy" httpProxy ProxyIngress.codec {})
    |>.and (.defaulted "tcpProxy" tcpProxy ProxyIngress.codec {})).record

/-- Settings of the controller's process. -/
structure ControllerSettings where
  pidBaseDir : String := ""
  ecnViewerPort : Int32 := 0
  ecnViewerUrl : String := ""
  ecnName : String := ""
  portProvider : String := ""
  portAllocatorHost : String := ""
  deriving Repr, DecidableEq, Inhabited

/-- The form of such settings. -/
def ControllerSettings.codec : Codec ControllerSettings :=
  (Fields.of ControllerSettings.mk
    |>.and (.defaulted "pidBaseDir" pidBaseDir .text "")
    |>.and (.defaulted "ecnViewerPort" ecnViewerPort .int32 0)
    |>.and (.defaulted "ecnViewerUrl" ecnViewerUrl .text "")
    |>.and (.defaulted "ecnName" ecnName .text "")
    |>.and (.defaulted "portProvider" portProvider .text "")
    |>.and (.defaulted "portAllocatorHost" portAllocatorHost .text "")).record

/-- What a control plane is meant to be. -/
structure Spec where
  replicas : Replicas := {}
  images : Images := {}
  database : Database := {}
  services : Services := {}
  user : User
  ingresses : Ingresses := {}
  controller : ControllerSettings := {}
  deriving Repr, DecidableEq, Inhabited

/-- The form of a specification. -/
def Spec.codec : Codec Spec :=
  (Fields.of Spec.mk
    |>.and (.about (.defaulted "replicas" replicas Replicas.codec {})
      "Replica counts per component")
    |>.and (.about (.defaulted "images" images Images.codec {})
      "Container images; empty values fall back to operator defaults")
    |>.and (.about (.defaulted "database" database Database.codec {})
      "Database used by the controller. No host means embedded sqlite.")
    |>.and (.about (.defaulted "services" services Services.codec {})
      "Exposure mode of the controller and router services")
    |>.and (.about (.required "user" user User.codec)
      "Operator-managed user in the management API")
    |>.and (.about (.defaulted "ingresses" ingresses Ingresses.codec {})
      "Externally reachable addresses when no load balancer is used")
    |>.and (.about (.defaulted "controller" controller ControllerSettings.codec {})
      "Controller runtime settings")).record

end ControlPlane

end EdgePlane
