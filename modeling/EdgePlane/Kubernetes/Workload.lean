import EdgePlane.Kubernetes.Metadata
import EdgePlane.Kubernetes.Shape.Pod

/-!
# Workloads

Deployments: containers with their variables, probes and volumes, and how they are replaced by newer
ones.
-/

namespace EdgePlane.Kubernetes

/-- A key of a secret. -/
structure SecretKeyRef where
  name : String := ""
  key : String := ""
  other : List (String × Json) := []
  deriving Repr, Inhabited

/-- The form of such a key. -/
def SecretKeyRef.codec : Codec SecretKeyRef :=
  (Fields.of SecretKeyRef.mk
    |>.and (.defaulted "name" name .text "")
    |>.and (.defaulted "key" key .text "")
    |>.others other).manifest SecretKeyRef.shape

/-- A field of the pod's own object. -/
structure FieldRef where
  fieldPath : String := ""
  other : List (String × Json) := []
  deriving Repr, Inhabited

/-- The form of such a field. -/
def FieldRef.codec : Codec FieldRef :=
  (Fields.of FieldRef.mk
    |>.and (.defaulted "fieldPath" fieldPath .text "")
    |>.others other).manifest FieldRef.shape

/-- Where the value of a variable comes from. -/
structure VariableSource where
  fieldRef : Option FieldRef := none
  secretKeyRef : Option SecretKeyRef := none
  other : List (String × Json) := []
  deriving Repr, Inhabited

/-- The form of a source. -/
def VariableSource.codec : Codec VariableSource :=
  (Fields.of VariableSource.mk
    |>.and (.optional "fieldRef" fieldRef FieldRef.codec)
    |>.and (.optional "secretKeyRef" secretKeyRef SecretKeyRef.codec)
    |>.others other).manifest VariableSource.shape

/-- A variable of a container's environment. -/
structure EnvVariable where
  name : String := ""
  value : Option String := none
  valueFrom : Option VariableSource := none
  deriving Repr, Inhabited

namespace EnvVariable

/-- The form of a variable. -/
def codec : Codec EnvVariable :=
  (Fields.of EnvVariable.mk
    |>.and (.defaulted "name" name .text "")
    |>.and (.optional "value" value .text)
    |>.and (.optional "valueFrom" valueFrom VariableSource.codec)).manifest EnvVariable.shape

/-- A variable with a value of its own. -/
def fixed (name value : String) : EnvVariable := { name, value := some value }

/-- A variable with the value of a field of the pod. -/
def ofField (name fieldPath : String) : EnvVariable :=
  { name, valueFrom := some { fieldRef := some { fieldPath } } }

/-- A variable with the value of a key of a secret. -/
def ofSecret (name secret key : String) : EnvVariable :=
  { name, valueFrom := some { secretKeyRef := some { name := secret, key } } }

end EnvVariable

/-- A request that shows whether a container is ready. -/
structure HttpGet where
  path : Option String := none
  port : IntOrString := .int 0
  other : List (String × Json) := []
  deriving Repr, Inhabited

/-- The form of a request. -/
def HttpGet.codec : Codec HttpGet :=
  (Fields.of HttpGet.mk
    |>.and (.optional "path" path .text)
    |>.and (.defaulted "port" port IntOrString.codec (.int 0))
    |>.others other).manifest HttpGet.shape

/-- A command that shows whether a container is ready. -/
structure Exec where
  command : Option (List String) := none
  deriving Repr, Inhabited

/-- The form of a command. -/
def Exec.codec : Codec Exec :=
  (Fields.of Exec.mk
    |>.and (.optional "command" command (.list .text))).manifest Exec.shape

/-- How to find out whether a container is ready. -/
structure Probe where
  httpGet : Option HttpGet := none
  exec : Option Exec := none
  initialDelaySeconds : Option Int32 := none
  timeoutSeconds : Option Int32 := none
  periodSeconds : Option Int32 := none
  failureThreshold : Option Int32 := none
  other : List (String × Json) := []
  deriving Repr, Inhabited

/-- The form of a probe. -/
def Probe.codec : Codec Probe :=
  (Fields.of Probe.mk
    |>.and (.optional "httpGet" httpGet HttpGet.codec)
    |>.and (.optional "exec" exec Exec.codec)
    |>.and (.optional "initialDelaySeconds" initialDelaySeconds .int32)
    |>.and (.optional "timeoutSeconds" timeoutSeconds .int32)
    |>.and (.optional "periodSeconds" periodSeconds .int32)
    |>.and (.optional "failureThreshold" failureThreshold .int32)
    |>.others other).manifest Probe.shape

/-- Where a volume appears in a container. -/
structure VolumeMount where
  name : String := ""
  mountPath : String := ""
  subPath : Option String := none
  other : List (String × Json) := []
  deriving Repr, Inhabited

/-- The form of a mount. -/
def VolumeMount.codec : Codec VolumeMount :=
  (Fields.of VolumeMount.mk
    |>.and (.defaulted "name" name .text "")
    |>.and (.defaulted "mountPath" mountPath .text "")
    |>.and (.optional "subPath" subPath .text)
    |>.others other).manifest VolumeMount.shape

/-- A container: the image it runs, its command, its variables, and the volumes in it. -/
structure Container where
  name : String := ""
  image : Option String := none
  imagePullPolicy : Option String := none
  command : Option (List String) := none
  env : Option (List EnvVariable) := none
  readinessProbe : Option Probe := none
  volumeMounts : Option (List VolumeMount) := none
  other : List (String × Json) := []
  deriving Repr, Inhabited

/-- The form of a container. -/
def Container.codec : Codec Container :=
  (Fields.of Container.mk
    |>.and (.defaulted "name" name .text "")
    |>.and (.optional "image" image .text)
    |>.and (.optional "imagePullPolicy" imagePullPolicy .text)
    |>.and (.optional "command" command (.list .text))
    |>.and (.optional "env" env (.list EnvVariable.codec))
    |>.and (.optional "readinessProbe" readinessProbe Probe.codec)
    |>.and (.optional "volumeMounts" volumeMounts (.list VolumeMount.codec))
    |>.others other).manifest Container.shape

/-- A volume with the entries of a secret. -/
structure SecretVolume where
  secretName : Option String := none
  other : List (String × Json) := []
  deriving Repr, Inhabited

/-- The form of a volume with a secret. -/
def SecretVolume.codec : Codec SecretVolume :=
  (Fields.of SecretVolume.mk
    |>.and (.optional "secretName" secretName .text)
    |>.others other).manifest SecretVolume.shape

/-- A volume with the storage of a claim. -/
structure ClaimVolume where
  claimName : String := ""
  readOnly : Option Bool := none
  deriving Repr, Inhabited

/-- The form of a volume with a claim. -/
def ClaimVolume.codec : Codec ClaimVolume :=
  (Fields.of ClaimVolume.mk
    |>.and (.defaulted "claimName" claimName .text "")
    |>.and (.optional "readOnly" readOnly .bool)).manifest ClaimVolume.shape

/-- A volume, with a secret or the storage of a claim in it, or anything else that is only kept. -/
structure Volume where
  name : String := ""
  secret : Option SecretVolume := none
  persistentVolumeClaim : Option ClaimVolume := none
  other : List (String × Json) := []
  deriving Repr, Inhabited

/-- The form of a volume. -/
def Volume.codec : Codec Volume :=
  (Fields.of Volume.mk
    |>.and (.defaulted "name" name .text "")
    |>.and (.optional "secret" secret SecretVolume.codec)
    |>.and (.optional "persistentVolumeClaim" persistentVolumeClaim ClaimVolume.codec)
    |>.others other).manifest Volume.shape

/-- What a pod is meant to be. -/
structure PodSpec where
  serviceAccountName : Option String := none
  containers : List Container := []
  volumes : Option (List Volume) := none
  other : List (String × Json) := []
  deriving Repr, Inhabited

/-- The form of a pod. -/
def PodSpec.codec : Codec PodSpec :=
  (Fields.of PodSpec.mk
    |>.and (.optional "serviceAccountName" serviceAccountName .text)
    |>.and (.defaulted "containers" containers (.list Container.codec) [])
    |>.and (.optional "volumes" volumes (.list Volume.codec))
    |>.others other).manifest PodSpec.shape

/-- What the pods of a deployment are made from. -/
structure PodTemplate where
  metadata : Option Metadata := none
  spec : Option PodSpec := none
  deriving Repr, Inhabited

/-- The form of a template. -/
def PodTemplate.codec : Codec PodTemplate :=
  (Fields.of PodTemplate.mk
    |>.and (.optional "metadata" metadata Metadata.codec)
    |>.and (.optional "spec" spec PodSpec.codec)).manifest PodTemplate.shape

/-- How many pods a rolling update may add and take away. -/
structure RollingUpdate where
  maxSurge : Option IntOrString := none
  maxUnavailable : Option IntOrString := none
  deriving Repr, Inhabited

/-- The form of such limits. -/
def RollingUpdate.codec : Codec RollingUpdate :=
  (Fields.of RollingUpdate.mk
    |>.and (.optional "maxSurge" maxSurge IntOrString.codec)
    |>.and (.optional "maxUnavailable" maxUnavailable IntOrString.codec)).manifest RollingUpdate.shape

/-- How pods are replaced. -/
structure DeploymentStrategy where
  type : Option String := none
  rollingUpdate : Option RollingUpdate := none
  deriving Repr, Inhabited

/-- The form of a strategy. -/
def DeploymentStrategy.codec : Codec DeploymentStrategy :=
  (Fields.of DeploymentStrategy.mk
    |>.and (.optional "type" type .text)
    |>.and (.optional "rollingUpdate" rollingUpdate RollingUpdate.codec)).manifest DeploymentStrategy.shape

/-- Which pods belong to a deployment. -/
structure LabelSelector where
  matchLabels : Option (Dict String String) := none
  other : List (String × Json) := []
  deriving Repr, Inhabited

/-- The form of a selector. -/
def LabelSelector.codec : Codec LabelSelector :=
  (Fields.of LabelSelector.mk
    |>.and (.optional "matchLabels" matchLabels (.dict .text))
    |>.others other).manifest LabelSelector.shape

/-- What a deployment is meant to be. -/
structure DeploymentSpec where
  replicas : Option Int32 := none
  minReadySeconds : Option Int32 := none
  selector : LabelSelector := {}
  strategy : Option DeploymentStrategy := none
  template : PodTemplate := {}
  other : List (String × Json) := []
  deriving Repr, Inhabited

/-- The form of what a deployment is meant to be. -/
def DeploymentSpec.codec : Codec DeploymentSpec :=
  (Fields.of DeploymentSpec.mk
    |>.and (.optional "replicas" replicas .int32)
    |>.and (.optional "minReadySeconds" minReadySeconds .int32)
    |>.and (.defaulted "selector" selector LabelSelector.codec {})
    |>.and (.optional "strategy" strategy DeploymentStrategy.codec)
    |>.and (.defaulted "template" template PodTemplate.codec {})
    |>.others other).manifest DeploymentSpec.shape

/-- A deployment. What the cluster reports of it is only kept. -/
structure Deployment where
  metadata : Metadata := {}
  spec : Option DeploymentSpec := none
  status : Option Json := none
  deriving Repr, Inhabited

/-- The form of a deployment. -/
def Deployment.codec : Codec Deployment :=
  typed "apps/v1" "Deployment" <| (Fields.of Deployment.mk
    |>.and (metadataField metadata)
    |>.and (.optional "spec" spec DeploymentSpec.codec)
    |>.and (.optional "status" status (.shaped deploymentStatus))).manifest Deployment.shape

end EdgePlane.Kubernetes
