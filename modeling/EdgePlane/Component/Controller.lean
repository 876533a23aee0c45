import EdgePlane.Component.Basic
import EdgePlane.Image

/-!
# The controller

The component that serves the management interface and the viewer. It keeps its data in a database
outside, or in a file on a claimed volume if there is none.
-/

namespace EdgePlane.Controller

open ControlPlane (Database)
open Kubernetes Text

/-- The name of the controller and of its objects. -/
def name : String := "controller"

/-- The port of the management interface. -/
def apiPort : Int32 := 51121

/-- The port of the viewer in the service. -/
def viewerPort : Int32 := 80

/-- The secret with the database's settings. -/
def databaseSecretName : String := "controller-db-credentials"

/-- The claim for the volume of the database file. -/
def claimName : String := "controller-sqlite"

/-- What the controller takes from a control plane. -/
structure Config where
  replicas : Int32 := 0
  image : String := ""
  imagePullSecret : String := ""
  serviceType : String := ""
  loadBalancerIP : String := ""
  database : Database := {}
  proxyImage : String := ""
  routerImage : String := ""
  portProvider : String := ""
  portAllocatorHost : String := ""
  ecnName : String := ""
  pidBaseDir : String := ""
  ecnViewerPort : Int32 := 0
  ecnViewerUrl : String := ""
  deriving Repr, DecidableEq, Inhabited

/-- The directory of the process's own files. -/
def Config.pidBase (config : Config) : String :=
  if config.pidBaseDir.isEmpty then "/tmp" else config.pidBaseDir

/-- The port that the viewer is told to serve. -/
def Config.viewer (config : Config) : Int32 :=
  if config.ecnViewerPort = 0 then viewerPort else config.ecnViewerPort

/-- The variables of the controller's process. Those of the database come from its secret. -/
def environment (config : Config) : List EnvVariable :=
  [.ofSecret "DB_PROVIDER" databaseSecretName "provider",
    .ofSecret "DB_NAME" databaseSecretName "name",
    .ofSecret "DB_USERNAME" databaseSecretName "user",
    .ofSecret "DB_PASSWORD" databaseSecretName "password",
    .ofSecret "DB_HOST" databaseSecretName "host",
    .ofSecret "DB_PORT" databaseSecretName "port",
    .fixed "MSVC_PORT_PROVIDER" config.portProvider,
    .fixed "SystemImages_Proxy_1" config.proxyImage,
    .fixed "SystemImages_Proxy_2" (armImage config.proxyImage),
    .fixed "SystemImages_Router_1" config.routerImage,
    .fixed "SystemImages_Router_2" (armImage config.routerImage),
    .fixed "PORT_ALLOC_ADDRESS" config.portAllocatorHost,
    .fixed "ECN_NAME" config.ecnName,
    .fixed "PID_BASE" config.pidBase,
    .fixed "VIEWER_PORT" (decimalInt config.viewer.toInt)] ++
  if config.ecnViewerUrl.isEmpty then [] else [.fixed "VIEWER_URL" config.ecnViewerUrl]

/-- Where the process finds the file of the database. -/
def databaseMount : VolumeMount where
  name := claimName
  mountPath := "/usr/local/lib/node_modules/iofogcontroller/src/data/sqlite_files/"
  subPath := some "prod_database.sqlite"

/-- The volume that the file of the database is on. -/
def databaseVolume : Volume where
  name := claimName
  persistentVolumeClaim := some { claimName, readOnly := some false }

/-- The container of the controller, which is ready when the management interface answers. -/
def container (config : Config) : Container :=
  { containerOf name config.image with
    readinessProbe := some
      { readinessProbe 10 with
        httpGet := some { path := some "/api/v3/status", port := .int apiPort } }
    env := some (environment config)
    volumeMounts := if config.database.isExternal then none else some [databaseMount] }

/-- The controller as a component. With a database file only one pod may run at a time. -/
def component (config : Config) : Component where
  name := name
  labels := Dict.ofList [("name", name)]
  replicas := if 0 < config.replicas then config.replicas else 1
  imagePullSecret := config.imagePullSecret
  service := some
    { name, type := config.serviceType, loadBalancerIP := config.loadBalancerIP
      ports := [apiPort, viewerPort] }
  containers := [container config]
  volumes := if config.database.isExternal then [] else [databaseVolume]
  mustRecreate := !config.database.isExternal
  availableDelaySeconds := 5

/-- The port of a database as text; none is an empty text. -/
def databasePort (database : Database) : String :=
  if database.port = 0 then "" else decimalInt database.port.toInt

/-- The secret with the settings of a database. -/
def databaseSecret (ns : String) (database : Database) : Secret where
  metadata := .named ns databaseSecretName
  stringData := some (Dict.ofList [("provider", database.provider), ("name", database.databaseName),
    ("user", database.user), ("password", database.password), ("host", database.host),
    ("port", databasePort database)])

/-- The claim for the volume of the database file. -/
def claim (ns : String) : VolumeClaim where
  metadata := .named ns claimName
  spec := some
    { accessModes := some ["ReadWriteOnce"]
      resources := some { requests := some (Dict.ofList [("storage", "1Gi")]) } }

end EdgePlane.Controller
