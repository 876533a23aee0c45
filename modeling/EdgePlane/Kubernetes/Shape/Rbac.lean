import EdgePlane.Kubernetes.Shape.Metadata

/-!
# Shapes of accounts, permissions and secrets
-/

namespace EdgePlane.Kubernetes

open Json

/-- An account. -/
def ServiceAccount.shape : Shape :=
  objectShape [("automountServiceAccountToken", .bool),
    ("imagePullSecrets", .list LocalReference.shape), ("secrets", .list objectReference)] []

/-- What may be done with which resources. -/
def PolicyRule.shape : Shape :=
  .record [("apiGroups", texts), ("nonResourceURLs", texts), ("resourceNames", texts),
    ("resources", texts)] [("verbs", texts)]

/-- A role. -/
def Role.shape : Shape := objectShape [("rules", .list PolicyRule.shape)] []

/-- A reference to a role. -/
def RoleRef.shape : Shape := .record [] [("apiGroup", .text), ("kind", .text), ("name", .text)]

/-- Who is granted a role. -/
def Subject.shape : Shape :=
  .record [("apiGroup", .text), ("namespace", .text)] [("kind", .text), ("name", .text)]

/-- A binding of a role to subjects. -/
def RoleBinding.shape : Shape :=
  objectShape [("subjects", .list Subject.shape)] [("roleRef", RoleRef.shape)]

/-- A secret. Its entries are in Base64. -/
def Secret.shape : Shape :=
  objectShape [("data", .dict .bytes), ("immutable", .bool), ("stringData", textsByName),
    ("type", .text)] []

end EdgePlane.Kubernetes
