import EdgePlane.Kubernetes.Metadata
import EdgePlane.Kubernetes.Shape.Rbac

/-!
# Identity and permissions

The account that the pods of a component run as, the role with what it may do, and the binding of one to
the other.
-/

namespace EdgePlane.Kubernetes

/-- The account of pods, with the secrets that images are pulled with. -/
structure ServiceAccount where
  metadata : Metadata := {}
  imagePullSecrets : Option (List LocalReference) := none
  other : List (String × Json) := []
  deriving Repr, Inhabited

/-- The form of an account. -/
def ServiceAccount.codec : Codec ServiceAccount :=
  typed "v1" "ServiceAccount" <| (Fields.of ServiceAccount.mk
    |>.and (metadataField metadata)
    |>.and (.optional "imagePullSecrets" imagePullSecrets (.list LocalReference.codec))
    |>.others other).manifest ServiceAccount.shape

/-- What may be done with which resources. -/
structure PolicyRule where
  apiGroups : Option (List String) := none
  resources : Option (List String) := none
  verbs : List String := []
  other : List (String × Json) := []
  deriving Repr, Inhabited

/-- The form of a rule. -/
def PolicyRule.codec : Codec PolicyRule :=
  (Fields.of PolicyRule.mk
    |>.and (.optional "apiGroups" apiGroups (.list .text))
    |>.and (.optional "resources" resources (.list .text))
    |>.and (.defaulted "verbs" verbs (.list .text) [])
    |>.others other).manifest PolicyRule.shape

/-- The group of the interface that roles belong to. -/
def rbacGroup : String := "rbac.authorization.k8s.io"

/-- A role: what whoever has it may do. -/
structure Role where
  metadata : Metadata := {}
  rules : Option (List PolicyRule) := none
  other : List (String × Json) := []
  deriving Repr, Inhabited

/-- The form of a role. -/
def Role.codec : Codec Role :=
  typed (rbacGroup ++ "/v1") "Role" <| (Fields.of Role.mk
    |>.and (metadataField metadata)
    |>.and (.optional "rules" rules (.list PolicyRule.codec))
    |>.others other).manifest Role.shape

/-- The role that a binding grants. -/
structure RoleRef where
  apiGroup : String := ""
  kind : String := ""
  name : String := ""
  deriving Repr, DecidableEq, Inhabited

/-- The form of a reference to a role. -/
def RoleRef.codec : Codec RoleRef :=
  (Fields.of RoleRef.mk
    |>.and (.defaulted "apiGroup" apiGroup .text "")
    |>.and (.defaulted "kind" kind .text "")
    |>.and (.defaulted "name" name .text "")).manifest RoleRef.shape

/-- Who is granted a role. -/
structure Subject where
  apiGroup : Option String := none
  kind : String := ""
  name : String := ""
  namespaceName : Option String := none
  deriving Repr, DecidableEq, Inhabited

/-- The form of a subject. -/
def Subject.codec : Codec Subject :=
  (Fields.of Subject.mk
    |>.and (.optional "apiGroup" apiGroup .text)
    |>.and (.defaulted "kind" kind .text "")
    |>.and (.defaulted "name" name .text "")
    |>.and (.optional "namespace" namespaceName .text)).manifest Subject.shape

/-- A binding of a role to subjects. -/
structure RoleBinding where
  metadata : Metadata := {}
  roleRef : RoleRef := {}
  subjects : Option (List Subject) := none
  other : List (String × Json) := []
  deriving Repr, Inhabited

/-- The form of a binding. -/
def RoleBinding.codec : Codec RoleBinding :=
  typed (rbacGroup ++ "/v1") "RoleBinding" <| (Fields.of RoleBinding.mk
    |>.and (metadataField metadata)
    |>.and (.defaulted "roleRef" roleRef RoleRef.codec {})
    |>.and (.optional "subjects" subjects (.list Subject.codec))
    |>.others other).manifest RoleBinding.shape

end EdgePlane.Kubernetes
