import EdgePlane.Component.Basic

/-!
# The router

The component that carries messages between edge nodes. Its certificates are mounted from two secrets,
and its configuration is passed in a variable.
-/

namespace EdgePlane.Router

open Kubernetes Text

/-- The name of the router and of its objects. -/
def name : String := "router"

/-- The secret of the certificate authority. -/
def authoritySecretName : String := "router-ca"

/-- The secret with the certificate for clients. -/
def amqpsSecretName : String := "router-amqps"

/-- The secret with the certificate for other routers. -/
def internalSecretName : String := "router-internal"

/-- The secrets with certificates for the router's address. -/
def leafSecretNames : List String := [amqpsSecretName, internalSecretName]

/-- The port for clients. -/
def messagePort : Int32 := 5672

/-- The port that tells whether the router is ready. -/
def httpPort : Int32 := 9090

/-- The port for other routers. -/
def interiorPort : Int32 := 55672

/-- The port for edge nodes. -/
def edgePort : Int32 := 45672

/-- The directory with a subdirectory for each secret of certificates. -/
def certificateDirectory : String := "/etc/qpid-dispatch-certs"

/-- A section of the configuration. -/
def block (title : String) (entries : List (String × String)) : List String :=
  ["", title ++ " \x7b"] ++ (entries.map fun e => "    " ++ e.1 ++ ": " ++ e.2) ++ ["\x7d"]

/-- The number of a port in the configuration. -/
def portText (port : Int32) : String := decimalInt port.toInt

/-- The section with the files of a secret's certificate. -/
def profile (secret : String) : List String :=
  let file (key : String) := certificateDirectory ++ "/" ++ secret ++ "/" ++ key
  block "sslProfile" [("name", secret), ("certFile", file certificateKey),
    ("privateKeyFile", file privateKeyKey), ("caCertFile", file authorityKey)]

/-- The configuration of the router: where it listens, and for whom. -/
def configuration : String :=
  "\n".intercalate (
    block "router" [("mode", "interior"), ("id", "default-router")] ++
    block "listener" [("host", "0.0.0.0"), ("port", portText messagePort), ("role", "normal")] ++
    profile amqpsSecretName ++
    block "listener" [("host", "0.0.0.0"), ("port", portText httpPort), ("role", "normal"),
      ("http", "true"), ("httpRootDir", "disabled"), ("websockets", "false"), ("healthz", "true"),
      ("metrics", "true")] ++
    profile internalSecretName ++
    block "listener" [("role", "inter-router"), ("host", "0.0.0.0"),
      ("port", portText interiorPort), ("saslMechanisms", "ANONYMOUS"), ("authenticatePeer", "no")] ++
    block "listener" [("role", "edge"), ("host", "0.0.0.0"), ("port", portText edgePort),
      ("saslMechanisms", "ANONYMOUS"), ("authenticatePeer", "no")]) ++ "\n"

/-- What the router takes from a control plane. -/
structure Config where
  image : String := ""
  serviceType : String := ""
  loadBalancerIP : String := ""
  deriving Repr, DecidableEq, Inhabited

/-- The volume with the files of a secret. -/
def secretVolume (secret : String) : Volume where
  name := secret
  secret := some { secretName := some secret }

/-- Where the files of a secret are. -/
def secretMount (secret : String) : VolumeMount where
  name := secret
  mountPath := certificateDirectory ++ "/" ++ secret

/-- The container of the router. -/
def container (image : String) : Container :=
  { containerOf name image with
    command := some ["/qpid-dispatch/launch.sh"]
    readinessProbe := some
      { readinessProbe 10 with httpGet := some { path := some "/healthz", port := .int httpPort } }
    env := some [.fixed "APPLICATION_NAME" name, .fixed "QDROUTERD_AUTO_MESH_DISCOVERY" "QUERY",
      .fixed "QDROUTERD_CONF" configuration, .ofField "POD_NAMESPACE" "metadata.namespace",
      .ofField "POD_IP" "status.podIP"]
    volumeMounts := some [secretMount internalSecretName, secretMount amqpsSecretName] }

/-- The router as a component. It may look for pods. -/
def component (config : Config) : Component where
  name := name
  labels := Dict.ofList [("name", name), ("application", "interior-router"),
    ("skupper.io/component", "router")]
  annotations := Dict.ofList [("prometheus.io/port", "9090"), ("prometheus.io/scrape", "true")]
  replicas := 1
  service := some
    { name, type := config.serviceType, loadBalancerIP := config.loadBalancerIP
      ports := [messagePort, interiorPort, edgePort] }
  containers := [container config.image]
  volumes := [secretVolume internalSecretName, secretVolume amqpsSecretName]
  rules := [{ apiGroups := some [""], resources := some ["pods"], verbs := ["get", "list", "watch"] }]

end EdgePlane.Router
