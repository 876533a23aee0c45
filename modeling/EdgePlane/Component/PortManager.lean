import EdgePlane.Component.Router
import EdgePlane.Credential

/-!
# The port manager

The component that opens proxies to edge nodes. It logs in to the management interface with the
credentials of the operator's user, which it takes from a secret.
-/

namespace EdgePlane.PortManager

open Kubernetes

/-- The name of the port manager and of its objects. -/
def name : String := "port-manager"

/-- The secret with the user's credentials. -/
def credentialsSecretName : String := "controller-credentials"

/-- The key of the user's address in the secret. -/
def emailKey : String := "email"

/-- The key of the user's password in the secret, kept in its encoded form. -/
def passwordKey : String := "password"

/-- What the port manager takes from a control plane. -/
structure Config where
  image : String := ""
  proxyImage : String := ""
  httpProxyAddress : String := ""
  tcpProxyAddress : String := ""
  watchNamespace : String := ""
  deriving Repr, DecidableEq, Inhabited

/-- The container of the port manager, which finds its user in the secret. -/
def container (config : Config) : Container :=
  { containerOf name config.image with
    readinessProbe := some
      { readinessProbe 4 with exec := some { command := some ["stat", "/tmp/operator-sdk-ready"] } }
    env := some [.fixed "WATCH_NAMESPACE" config.watchNamespace, .ofField "POD_NAME" "metadata.name",
      .fixed "OPERATOR_NAME" name,
      .ofSecret "IOFOG_USER_EMAIL" credentialsSecretName emailKey,
      .ofSecret "IOFOG_USER_PASS" credentialsSecretName passwordKey,
      .fixed "PROXY_IMAGE" config.proxyImage, .fixed "HTTP_PROXY_ADDRESS" config.httpProxyAddress,
      .fixed "TCP_PROXY_ADDRESS" config.tcpProxyAddress, .fixed "ROUTER_ADDRESS" Router.name] }

/-- The port manager as a component. It may change the objects by which it opens proxies. -/
def component (config : Config) : Component where
  name := name
  labels := Dict.ofList [("name", name)]
  replicas := 1
  containers := [container config]
  rules := [{ apiGroups := some ["", "apps"]
              resources := some ["deployments", "services", "pods", "configmaps"]
              verbs := ["get", "list", "watch", "create", "update", "patch", "delete"] }]
  mustRecreate := true

/-- The secret with a user's credentials. -/
def credentialsSecret (ns email : String) (password : Credential) : Secret where
  metadata := .named ns credentialsSecretName
  stringData := some (Dict.ofList [(emailKey, email), (passwordKey, password.encoded)])

end EdgePlane.PortManager
