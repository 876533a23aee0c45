import EdgePlane.ControlPlane.Spec
import EdgePlane.Kubernetes.Metadata

/-!
# Control planes

A control plane is declared by its specification. Its status is a list of conditions, of which the
first that is true names the phase it is in.
-/

namespace EdgePlane

open Kubernetes Text

namespace ControlPlane

/-- A condition of a control plane, and since when it has its status. -/
structure Condition where
  type : String
  status : String
  lastTransitionTime : Option Instant
  deriving Repr, DecidableEq

namespace Condition

/-- The form of a condition. -/
def codec : Codec Condition :=
  (Fields.of Condition.mk
    |>.and (.required "type" type .text)
    |>.and (.about (.required "status" status .text) "`True` or `False`")
    |>.and (.optional "lastTransitionTime" lastTransitionTime .instant)).record

/-- A condition that came true at an instant. -/
def active (type : String) (time : Instant) : Condition := ⟨type, "True", some time⟩

/-- Whether a condition holds. -/
def isTrue (c : Condition) : Bool := equalIgnoringCase c.status "true"

end Condition

/-- What the operator records of a control plane. -/
structure Status where
  conditions : List Condition
  deriving Repr, DecidableEq

/-- The form of a status. -/
def Status.codec : Codec Status :=
  (Fields.of Status.mk
    |>.and (.about (.defaulted "conditions" conditions (.list Condition.codec) [])
      "Phase conditions. At most one is `True`.")).record

/-- The phases that the operator knows. -/
inductive Phase
  /-- The components are being brought about. -/
  | deploying
  /-- All components are as declared. -/
  | ready
  deriving Repr, DecidableEq

/-- The name of a phase in messages. -/
def Phase.name : Phase → String
  | .deploying => "Deploying"
  | .ready => "Ready"

/-- The type of the condition of a phase. -/
def Phase.conditionType : Phase → String
  | .deploying => "deploying"
  | .ready => "ready"

/-- The phase of a condition's type. -/
def Phase.ofConditionType? (type : String) : Option Phase :=
  [Phase.deploying, .ready].find? (·.conditionType = type)

/-- The type of the first true condition. -/
def Status.activeType (s : Status) : Option String :=
  (s.conditions.find? (·.isTrue)).map (·.type)

/-- The group of the interface that control planes belong to. -/
def group : String := "ecn.microscaler.io"

/-- The version of that group. -/
def version : String := "v1alpha1"

/-- The name of their kind. -/
def kindName : String := "ControlPlane"

/-- The group and the version as objects name them. -/
def apiVersion : String := group ++ "/" ++ version

end ControlPlane

open ControlPlane in
/-- A control plane as it is declared, and what is recorded of it. -/
structure ControlPlane where
  metadata : Metadata
  spec : Spec
  status : Option Status
  deriving Repr

namespace ControlPlane

/-- The fields of a control plane. -/
def fields : Fields ControlPlane ControlPlane :=
  Fields.of ControlPlane.mk
    |>.and (.required "metadata" metadata Metadata.codec)
    |>.and (.required "spec" spec Spec.codec)
    |>.and (Field.placed (.optional "status" status Status.codec))

/-- A control plane as an object of the cluster. Its version and kind are written, and passed over when
it is read. -/
def codec : Codec ControlPlane where
  encode cp := .obj (("apiVersion", .str apiVersion) :: ("kind", .str kindName) :: fields.write cp)
  decode := fields.record.decode
  schema := fields.schema

/-- The name, or what it would be generated from. -/
def name (cp : ControlPlane) : String := cp.metadata.nameAny

/-- The namespace and the name in messages. -/
def key (cp : ControlPlane) : String := cp.metadata.namespaceName.getD "" ++ "/" ++ cp.name

/-- The type of the first true condition of the status. -/
def activeType (cp : ControlPlane) : Option String := cp.status.bind (·.activeType)

/-- The phase, if the status has one that the operator knows. -/
def phase (cp : ControlPlane) : Option Phase := cp.activeType.bind Phase.ofConditionType?

/-- The recorded conditions; without a status there are none. -/
def conditions (cp : ControlPlane) : List Condition := (cp.status.map (·.conditions)).getD []

/-- The control plane as the owner of an object, if it has a name and an identity. -/
def owner? (cp : ControlPlane) : Option OwnerReference := do
  return { apiVersion, kind := kindName, name := ← cp.metadata.name, uid := ← cp.metadata.uid,
           controller := some true, blockOwnerDeletion := some true }

end ControlPlane

end EdgePlane
