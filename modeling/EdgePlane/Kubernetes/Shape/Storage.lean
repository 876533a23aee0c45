import EdgePlane.Kubernetes.Shape.Metadata

/-!
# Shapes of storage

Claims for storage, and the volumes of pods with all the places that their contents may come from.
-/

namespace EdgePlane.Kubernetes

open Json

/-- How much storage is needed, and how much is too much. -/
def VolumeResources.shape : Shape := .record [("limits", textsByName), ("requests", textsByName)] []

/-- What a claim asks for. -/
def VolumeClaimSpec.shape : Shape :=
  .record [("accessModes", texts),
    ("dataSource", .record [("apiGroup", .text)] [("kind", .text), ("name", .text)]),
    ("dataSourceRef",
      .record [("apiGroup", .text), ("namespace", .text)] [("kind", .text), ("name", .text)]),
    ("resources", VolumeResources.shape), ("selector", LabelSelector.shape),
    ("storageClassName", .text), ("volumeAttributesClassName", .text), ("volumeMode", .text),
    ("volumeName", .text)] []

/-- What is reported of a claim. -/
def volumeClaimStatus : Shape :=
  .record [("accessModes", texts), ("allocatedResourceStatuses", textsByName),
    ("allocatedResources", textsByName), ("capacity", textsByName),
    ("conditions", .list (.record
      [("lastProbeTime", .instant), ("lastTransitionTime", .instant), ("message", .text),
        ("reason", .text)]
      [("status", .text), ("type", .text)])),
    ("currentVolumeAttributesClassName", .text),
    ("modifyVolumeStatus",
      .record [("targetVolumeAttributesClassName", .text)] [("status", .text)]),
    ("phase", .text)] []

/-- A claim and what is reported of it. -/
def VolumeClaim.shape : Shape :=
  objectShape [("spec", VolumeClaimSpec.shape), ("status", volumeClaimStatus)] []

/-- A field of the pod's own object. -/
def FieldRef.shape : Shape := .record [("apiVersion", .text)] [("fieldPath", .text)]

/-- A resource of a container. -/
def resourceFieldRef : Shape :=
  .record [("containerName", .text), ("divisor", .text)] [("resource", .text)]

/-- Files for some keys of an object. -/
def keyedFiles : Shape := .list (.record [("mode", .int32)] [("key", .text), ("path", .text)])

/-- Files for some fields of the pod. -/
def fieldFiles : Shape :=
  .list (.record
    [("fieldRef", FieldRef.shape), ("mode", .int32), ("resourceFieldRef", resourceFieldRef)]
    [("path", .text)])

/-- Entries of a named object as a part of a volume. -/
def projectedEntries : Shape :=
  .record [("items", keyedFiles), ("optional", .bool)] [("name", .text)]

/-- The parts of a volume with several. -/
def projections : Shape :=
  .list (.record
    [("clusterTrustBundle",
        .record [("labelSelector", LabelSelector.shape), ("name", .text), ("optional", .bool),
          ("signerName", .text)] [("path", .text)]),
      ("configMap", projectedEntries),
      ("downwardAPI", .record [("items", fieldFiles)] []),
      ("secret", projectedEntries),
      ("serviceAccountToken",
        .record [("audience", .text), ("expirationSeconds", .int64)] [("path", .text)])]
    [])

/-- A volume with the entries of a secret. -/
def SecretVolume.shape : Shape :=
  .record [("defaultMode", .int32), ("items", keyedFiles), ("optional", .bool),
    ("secretName", .text)] []

/-- A volume with the storage of a claim. -/
def ClaimVolume.shape : Shape := .record [("readOnly", .bool)] [("claimName", .text)]

/-- Contents that the cluster itself provides. -/
def localVolumes : List (String × Shape) :=
  [("configMap",
      .record [("defaultMode", .int32), ("items", keyedFiles), ("optional", .bool)]
        [("name", .text)]),
    ("csi",
      .record [("fsType", .text), ("nodePublishSecretRef", LocalReference.shape), ("readOnly", .bool),
        ("volumeAttributes", textsByName)] [("driver", .text)]),
    ("downwardAPI", .record [("defaultMode", .int32), ("items", fieldFiles)] []),
    ("emptyDir", .record [("medium", .text), ("sizeLimit", .text)] []),
    ("ephemeral",
      .record [("volumeClaimTemplate",
        .record [("metadata", Metadata.shape)] [("spec", VolumeClaimSpec.shape)])] []),
    ("gitRepo", .record [("directory", .text), ("revision", .text)] [("repository", .text)]),
    ("hostPath", .record [("type", .text)] [("path", .text)]),
    ("persistentVolumeClaim", ClaimVolume.shape),
    ("projected", .record [("defaultMode", .int32), ("sources", projections)] []),
    ("secret", SecretVolume.shape)]

/-- Contents on servers and disks. -/
def remoteVolumes : List (String × Shape) :=
  [("awsElasticBlockStore",
      .record [("fsType", .text), ("partition", .int32), ("readOnly", .bool)] [("volumeID", .text)]),
    ("azureDisk",
      .record [("cachingMode", .text), ("fsType", .text), ("kind", .text), ("readOnly", .bool)]
        [("diskName", .text), ("diskURI", .text)]),
    ("azureFile",
      .record [("readOnly", .bool)] [("secretName", .text), ("shareName", .text)]),
    ("cephfs",
      .record [("path", .text), ("readOnly", .bool), ("secretFile", .text),
        ("secretRef", LocalReference.shape), ("user", .text)] [("monitors", texts)]),
    ("cinder",
      .record [("fsType", .text), ("readOnly", .bool), ("secretRef", LocalReference.shape)]
        [("volumeID", .text)]),
    ("fc",
      .record [("fsType", .text), ("lun", .int32), ("readOnly", .bool), ("targetWWNs", texts),
        ("wwids", texts)] []),
    ("flexVolume",
      .record [("fsType", .text), ("options", textsByName), ("readOnly", .bool),
        ("secretRef", LocalReference.shape)] [("driver", .text)]),
    ("flocker", .record [("datasetName", .text), ("datasetUUID", .text)] []),
    ("gcePersistentDisk",
      .record [("fsType", .text), ("partition", .int32), ("readOnly", .bool)] [("pdName", .text)]),
    ("glusterfs",
      .record [("readOnly", .bool)] [("endpoints", .text), ("path", .text)]),
    ("iscsi",
      .record [("chapAuthDiscovery", .bool), ("chapAuthSession", .bool), ("fsType", .text),
        ("initiatorName", .text), ("iscsiInterface", .text), ("portals", texts), ("readOnly", .bool),
        ("secretRef", LocalReference.shape)]
        [("iqn", .text), ("lun", .int32), ("targetPortal", .text)]),
    ("nfs", .record [("readOnly", .bool)] [("path", .text), ("server", .text)]),
    ("photonPersistentDisk", .record [("fsType", .text)] [("pdID", .text)]),
    ("portworxVolume",
      .record [("fsType", .text), ("readOnly", .bool)] [("volumeID", .text)]),
    ("quobyte",
      .record [("group", .text), ("readOnly", .bool), ("tenant", .text), ("user", .text)]
        [("registry", .text), ("volume", .text)]),
    ("rbd",
      .record [("fsType", .text), ("keyring", .text), ("pool", .text), ("readOnly", .bool),
        ("secretRef", LocalReference.shape), ("user", .text)]
        [("image", .text), ("monitors", texts)]),
    ("scaleIO",
      .record [("fsType", .text), ("protectionDomain", .text), ("readOnly", .bool),
        ("sslEnabled", .bool), ("storageMode", .text), ("storagePool", .text), ("volumeName", .text)]
        [("gateway", .text), ("secretRef", LocalReference.shape), ("system", .text)]),
    ("storageos",
      .record [("fsType", .text), ("readOnly", .bool), ("secretRef", LocalReference.shape),
        ("volumeName", .text), ("volumeNamespace", .text)] []),
    ("vsphereVolume",
      .record [("fsType", .text), ("storagePolicyID", .text), ("storagePolicyName", .text)]
        [("volumePath", .text)])]

/-- A volume with its contents. -/
def Volume.shape : Shape := .record (localVolumes ++ remoteVolumes) [("name", .text)]

end EdgePlane.Kubernetes
