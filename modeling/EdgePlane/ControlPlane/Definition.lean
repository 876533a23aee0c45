import EdgePlane.ControlPlane.Basic

/-!
# The definition of the control plane resource

The document that makes control planes known to a cluster: their names and the schema of what they
hold.
-/

namespace EdgePlane.ControlPlane

/-- The name of the resource in paths. -/
def plural : String := "controlplanes"

/-- The schema of a control plane. -/
def resourceSchema : Json :=
  .obj [("description",
      .str "Auto-generated derived type for ControlPlaneSpec via `CustomResource`"),
    ("properties", .obj [("spec", .obj Spec.codec.schema),
      ("status", .obj (Codec.nullable Status.codec).schema)]),
    ("required", .arr [.str "spec"]), ("title", .str kindName), ("type", .str "object")]

/-- The document itself. -/
def definition : Json :=
  .obj [("apiVersion", .str "apiextensions.k8s.io/v1"), ("kind", .str "CustomResourceDefinition"),
    ("metadata", .obj [("name", .str (plural ++ "." ++ group))]),
    ("spec", .obj [("group", .str group),
      ("names", .obj [("categories", .arr []), ("kind", .str kindName), ("plural", .str plural),
        ("shortNames", .arr [.str "cp"]), ("singular", .str "controlplane")]),
      ("scope", .str "Namespaced"),
      ("versions", .arr [.obj [("additionalPrinterColumns", .arr []), ("name", .str version),
        ("schema", .obj [("openAPIV3Schema", resourceSchema)]), ("served", .bool true),
        ("storage", .bool true), ("subresources", .obj [("status", .obj [])])]])])]

end EdgePlane.ControlPlane
