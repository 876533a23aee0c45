import EdgePlane.Kubernetes.Shape.Storage

/-!
# Shapes of pods

Containers and what surrounds them in a pod, up to the deployments that pods are made by.
-/

namespace EdgePlane.Kubernetes

open Json

/-- A key of a secret. -/
def SecretKeyRef.shape : Shape := .record [("optional", .bool)] [("key", .text), ("name", .text)]

/-- The places that the value of a variable may come from. -/
def VariableSource.shape : Shape :=
  .record [("configMapKeyRef", SecretKeyRef.shape), ("fieldRef", FieldRef.shape),
    ("resourceFieldRef", resourceFieldRef), ("secretKeyRef", SecretKeyRef.shape)] []

/-- A variable. -/
def EnvVariable.shape : Shape :=
  .record [("value", .text), ("valueFrom", VariableSource.shape)] [("name", .text)]

/-- Variables from all entries of an object. -/
def variablesFrom : Shape :=
  let entries : Shape := .record [("optional", .bool)] [("name", .text)]
  .record [("configMapRef", entries), ("prefix", .text), ("secretRef", entries)] []

/-- A request to a container. -/
def HttpGet.shape : Shape :=
  .record [("host", .text),
    ("httpHeaders", .list (.record [] [("name", .text), ("value", .text)])), ("path", .text),
    ("scheme", .text)] [("port", .intOrText)]

/-- A connection to a container. -/
def tcpSocket : Shape := .record [("host", .text)] [("port", .intOrText)]

/-- A command in a container. -/
def Exec.shape : Shape := .record [("command", texts)] []

/-- The ways to find out about a container, and when to use them. -/
def Probe.shape : Shape :=
  .record [("exec", Exec.shape), ("failureThreshold", .int32),
    ("grpc", .record [("service", .text)] [("port", .int32)]), ("httpGet", HttpGet.shape),
    ("initialDelaySeconds", .int32), ("periodSeconds", .int32), ("successThreshold", .int32),
    ("tcpSocket", tcpSocket), ("terminationGracePeriodSeconds", .int64), ("timeoutSeconds", .int32)] []

/-- What is done at an end of a container's life. -/
def lifecycleHandler : Shape :=
  .record [("exec", Exec.shape), ("httpGet", HttpGet.shape),
    ("sleep", .record [] [("seconds", .int64)]), ("tcpSocket", tcpSocket)] []

/-- A port of a container. -/
def containerPort : Shape :=
  .record [("hostIP", .text), ("hostPort", .int32), ("name", .text), ("protocol", .text)]
    [("containerPort", .int32)]

/-- What a container may use and what it needs. -/
def containerResources : Shape :=
  .record [("claims", .list (.record [] [("name", .text)])), ("limits", textsByName),
    ("requests", textsByName)] []

/-- A confinement of system calls or of access to files. -/
def confinement : Shape := .record [("localhostProfile", .text)] [("type", .text)]

/-- Members that the security of a container and of a pod have in common. -/
def securityMembers : List (String × Shape) :=
  [("appArmorProfile", confinement), ("runAsGroup", .int64), ("runAsNonRoot", .bool),
    ("runAsUser", .int64),
    ("seLinuxOptions",
      .record [("level", .text), ("role", .text), ("type", .text), ("user", .text)] []),
    ("seccompProfile", confinement),
    ("windowsOptions",
      .record [("gmsaCredentialSpec", .text), ("gmsaCredentialSpecName", .text),
        ("hostProcess", .bool), ("runAsUserName", .text)] [])]

/-- What the processes of a container may do. -/
def containerSecurity : Shape :=
  .record ([("allowPrivilegeEscalation", .bool),
    ("capabilities", .record [("add", texts), ("drop", texts)] []), ("privileged", .bool),
    ("procMount", .text), ("readOnlyRootFilesystem", .bool)] ++ securityMembers) []

/-- What the processes of a pod may do. -/
def podSecurity : Shape :=
  .record ([("fsGroup", .int64), ("fsGroupChangePolicy", .text),
    ("supplementalGroups", .list .int64),
    ("sysctls", .list (.record [] [("name", .text), ("value", .text)]))] ++ securityMembers) []

/-- Where a volume appears in a container, and how. -/
def VolumeMount.shape : Shape :=
  .record [("mountPropagation", .text), ("readOnly", .bool), ("recursiveReadOnly", .text),
    ("subPath", .text), ("subPathExpr", .text)] [("mountPath", .text), ("name", .text)]

/-- Members that a container may have. -/
def containerMembers : List (String × Shape) :=
  [("args", texts), ("command", texts), ("env", .list EnvVariable.shape),
    ("envFrom", .list variablesFrom), ("image", .text), ("imagePullPolicy", .text),
    ("lifecycle", .record [("postStart", lifecycleHandler), ("preStop", lifecycleHandler)] []),
    ("livenessProbe", Probe.shape), ("ports", .list containerPort), ("readinessProbe", Probe.shape),
    ("resizePolicy", .list (.record [] [("resourceName", .text), ("restartPolicy", .text)])),
    ("resources", containerResources), ("restartPolicy", .text),
    ("securityContext", containerSecurity), ("startupProbe", Probe.shape), ("stdin", .bool),
    ("stdinOnce", .bool), ("terminationMessagePath", .text), ("terminationMessagePolicy", .text),
    ("tty", .bool),
    ("volumeDevices", .list (.record [] [("devicePath", .text), ("name", .text)])),
    ("volumeMounts", .list VolumeMount.shape), ("workingDir", .text)]

/-- A container. -/
def Container.shape : Shape := .record containerMembers [("name", .text)]

/-- A container that is added to a running pod. -/
def ephemeralContainer : Shape :=
  .record (("targetContainerName", .text) :: containerMembers) [("name", .text)]

/-- Conditions on a node. -/
def nodeSelectorTerm : Shape :=
  .record [("matchExpressions", .list requirement), ("matchFields", .list requirement)] []

/-- Pods that a pod is to be near to, or far from. -/
def podAffinityTerm : Shape :=
  .record [("labelSelector", LabelSelector.shape), ("matchLabelKeys", texts),
    ("mismatchLabelKeys", texts), ("namespaceSelector", LabelSelector.shape), ("namespaces", texts)]
    [("topologyKey", .text)]

/-- How near to other pods, or how far from them, a pod is to be. -/
def podAffinity : Shape :=
  .record [("preferredDuringSchedulingIgnoredDuringExecution",
      .list (.record [] [("podAffinityTerm", podAffinityTerm), ("weight", .int32)])),
    ("requiredDuringSchedulingIgnoredDuringExecution", .list podAffinityTerm)] []

/-- Where a pod is to run. -/
def affinity : Shape :=
  .record [("nodeAffinity", .record
      [("preferredDuringSchedulingIgnoredDuringExecution",
          .list (.record [] [("preference", nodeSelectorTerm), ("weight", .int32)])),
        ("requiredDuringSchedulingIgnoredDuringExecution",
          .record [] [("nodeSelectorTerms", .list nodeSelectorTerm)])] []),
    ("podAffinity", podAffinity), ("podAntiAffinity", podAffinity)] []

/-- How pods are spread. -/
def topologySpread : Shape :=
  .record [("labelSelector", LabelSelector.shape), ("matchLabelKeys", texts), ("minDomains", .int32),
    ("nodeAffinityPolicy", .text), ("nodeTaintsPolicy", .text)]
    [("maxSkew", .int32), ("topologyKey", .text), ("whenUnsatisfiable", .text)]

/-- How names are looked up in a pod. -/
def dnsConfig : Shape :=
  .record [("nameservers", texts), ("options", .list (.record [("name", .text), ("value", .text)] [])),
    ("searches", texts)] []

/-- A pod. -/
def PodSpec.shape : Shape :=
  .record [("activeDeadlineSeconds", .int64), ("affinity", affinity),
    ("automountServiceAccountToken", .bool), ("dnsConfig", dnsConfig), ("dnsPolicy", .text),
    ("enableServiceLinks", .bool), ("ephemeralContainers", .list ephemeralContainer),
    ("hostAliases", .list (.record [("hostnames", texts)] [("ip", .text)])), ("hostIPC", .bool),
    ("hostNetwork", .bool), ("hostPID", .bool), ("hostUsers", .bool), ("hostname", .text),
    ("imagePullSecrets", .list LocalReference.shape), ("initContainers", .list Container.shape),
    ("nodeName", .text), ("nodeSelector", textsByName), ("os", .record [] [("name", .text)]),
    ("overhead", textsByName), ("preemptionPolicy", .text), ("priority", .int32),
    ("priorityClassName", .text), ("readinessGates", .list (.record [] [("conditionType", .text)])),
    ("resourceClaims", .list (.record
      [("source",
        .record [("resourceClaimName", .text), ("resourceClaimTemplateName", .text)] [])]
      [("name", .text)])),
    ("restartPolicy", .text), ("runtimeClassName", .text), ("schedulerName", .text),
    ("schedulingGates", .list (.record [] [("name", .text)])), ("securityContext", podSecurity),
    ("serviceAccount", .text), ("serviceAccountName", .text), ("setHostnameAsFQDN", .bool),
    ("shareProcessNamespace", .bool), ("subdomain", .text), ("terminationGracePeriodSeconds", .int64),
    ("tolerations", .list (.record [("effect", .text), ("key", .text), ("operator", .text),
      ("tolerationSeconds", .int64), ("value", .text)] [])),
    ("topologySpreadConstraints", .list topologySpread), ("volumes", .list Volume.shape)]
    [("containers", .list Container.shape)]

/-- What pods are made from. -/
def PodTemplate.shape : Shape := .record [("metadata", Metadata.shape), ("spec", PodSpec.shape)] []

/-- How many pods may be added and taken away, in numbers or shares. -/
def RollingUpdate.shape : Shape :=
  .record [("maxSurge", .intOrText), ("maxUnavailable", .intOrText)] []

/-- How pods are replaced. -/
def DeploymentStrategy.shape : Shape :=
  .record [("rollingUpdate", RollingUpdate.shape), ("type", .text)] []

/-- What a deployment is meant to be. -/
def DeploymentSpec.shape : Shape :=
  .record [("minReadySeconds", .int32), ("paused", .bool), ("progressDeadlineSeconds", .int32),
    ("replicas", .int32), ("revisionHistoryLimit", .int32), ("strategy", DeploymentStrategy.shape)]
    [("selector", LabelSelector.shape), ("template", PodTemplate.shape)]

/-- What is reported of a deployment. -/
def deploymentStatus : Shape :=
  .record [("availableReplicas", .int32), ("collisionCount", .int32),
    ("conditions", .list (.record
      [("lastTransitionTime", .instant), ("lastUpdateTime", .instant), ("message", .text),
        ("reason", .text)]
      [("status", .text), ("type", .text)])),
    ("observedGeneration", .int64), ("readyReplicas", .int32), ("replicas", .int32),
    ("unavailableReplicas", .int32), ("updatedReplicas", .int32)] []

/-- A deployment and what is reported of it. -/
def Deployment.shape : Shape :=
  objectShape [("spec", DeploymentSpec.shape), ("status", deploymentStatus)] []

end EdgePlane.Kubernetes
