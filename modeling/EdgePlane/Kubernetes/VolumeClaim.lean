import EdgePlane.Kubernetes.Metadata
import EdgePlane.Kubernetes.Shape.Storage

/-!
# Volume claims

A claim for storage of a certain size. What the cluster reports of it is only kept.
-/

namespace EdgePlane.Kubernetes

/-- How much storage is needed. -/
structure VolumeResources where
  requests : Option (Dict String String) := none
  other : List (String × Json) := []
  deriving Repr, Inhabited

/-- The form of such an amount. -/
def VolumeResources.codec : Codec VolumeResources :=
  (Fields.of VolumeResources.mk
    |>.and (.optional "requests" requests (.dict .text))
    |>.others other).manifest VolumeResources.shape

/-- What a claim asks for. -/
structure VolumeClaimSpec where
  accessModes : Option (List String) := none
  resources : Option VolumeResources := none
  other : List (String × Json) := []
  deriving Repr, Inhabited

/-- The form of what is asked for. -/
def VolumeClaimSpec.codec : Codec VolumeClaimSpec :=
  (Fields.of VolumeClaimSpec.mk
    |>.and (.optional "accessModes" accessModes (.list .text))
    |>.and (.optional "resources" resources VolumeResources.codec)
    |>.others other).manifest VolumeClaimSpec.shape

/-- A claim for storage. -/
structure VolumeClaim where
  metadata : Metadata := {}
  spec : Option VolumeClaimSpec := none
  other : List (String × Json) := []
  deriving Repr, Inhabited

/-- The form of a claim. -/
def VolumeClaim.codec : Codec VolumeClaim :=
  typed "v1" "PersistentVolumeClaim" <| (Fields.of VolumeClaim.mk
    |>.and (metadataField metadata)
    |>.and (.optional "spec" spec VolumeClaimSpec.codec)
    |>.others other).manifest VolumeClaim.shape

end EdgePlane.Kubernetes
