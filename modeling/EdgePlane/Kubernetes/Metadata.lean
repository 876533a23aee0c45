import EdgePlane.Json.Codec
import EdgePlane.Kubernetes.Shape.Metadata

/-!
# Metadata of cluster objects

The identity of an object in a cluster, its labels, and the objects that own it. Of the other fields of
its shape nothing but the JSON is kept.
-/

namespace EdgePlane.Kubernetes

open Json

/-- An object that owns another. -/
structure OwnerReference where
  apiVersion : String
  kind : String
  name : String
  uid : String
  controller : Option Bool := none
  blockOwnerDeletion : Option Bool := none
  deriving Repr, DecidableEq, Inhabited

/-- The form of a reference to an owner. -/
def OwnerReference.codec : Codec OwnerReference :=
  (Fields.of OwnerReference.mk
    |>.and (.defaulted "apiVersion" apiVersion .text "")
    |>.and (.defaulted "kind" kind .text "")
    |>.and (.defaulted "name" name .text "")
    |>.and (.defaulted "uid" uid .text "")
    |>.and (.optional "controller" controller .bool)
    |>.and (.optional "blockOwnerDeletion" blockOwnerDeletion .bool)).manifest OwnerReference.shape

/-- What identifies and describes an object. -/
structure Metadata where
  name : Option String := none
  generateName : Option String := none
  namespaceName : Option String := none
  uid : Option String := none
  labels : Option (Dict String String) := none
  annotations : Option (Dict String String) := none
  ownerReferences : Option (List OwnerReference) := none
  other : List (String × Json) := []
  deriving Repr, Inhabited

namespace Metadata

/-- The form of metadata. -/
def codec : Codec Metadata :=
  (Fields.of Metadata.mk
    |>.and (.optional "name" name .text)
    |>.and (.optional "generateName" generateName .text)
    |>.and (.optional "namespace" namespaceName .text)
    |>.and (.optional "uid" uid .text)
    |>.and (.optional "labels" labels (.dict .text))
    |>.and (.optional "annotations" annotations (.dict .text))
    |>.and (.optional "ownerReferences" ownerReferences (.list OwnerReference.codec))
    |>.others other).manifest Metadata.shape

/-- The metadata of a named object in a namespace. -/
def named (namespaceName name : String) : Metadata :=
  { name := some name, namespaceName := some namespaceName }

/-- The name, or what a name would be generated from, or nothing. -/
def nameAny (m : Metadata) : String := (m.name.or m.generateName).getD ""

end Metadata

/-- A field of a manifest that is written always and empty when it is not given. -/
def metadataField {ρ : Type} (get : ρ → Metadata) : Field ρ Metadata :=
  .defaulted "metadata" get Metadata.codec {}

/-- The codec of an object of a given version and kind. They are written with every object; an object
that is read may leave them out, but not name others. -/
def typed {ρ : Type} (apiVersion kind : String) (codec : Codec ρ) : Codec ρ where
  encode r :=
    .obj (("apiVersion", .str apiVersion) :: ("kind", .str kind) :: ((codec.encode r).members?.getD []))
  decode v :=
    match v with
    | .obj members =>
      if agrees "apiVersion" apiVersion members && agrees "kind" kind members then codec.decode v
      else none
    | _ => none
  schema := codec.schema
where
  agrees (name expected : String) (members : List (String × Json)) : Bool :=
    (Shape.valuesOf name members).all fun v => v.text? == some expected

/-- A number or a text, such as a port or a share. -/
inductive IntOrString
  | int (n : Int32)
  | str (s : String)
  deriving Repr, DecidableEq, Inhabited

/-- A number is written as a number and a text as a text. -/
def IntOrString.codec : Codec IntOrString where
  encode
    | .int n => Codec.int32.encode n
    | .str s => .str s
  decode
    | .str s => some (.str s)
    | v => (Codec.int32.decode v).map .int
  schema := []

/-- An object of the same namespace, by its name. -/
structure LocalReference where
  name : String := ""
  deriving Repr, DecidableEq, Inhabited

/-- The form of such a reference. -/
def LocalReference.codec : Codec LocalReference :=
  (Fields.of LocalReference.mk
    |>.and (.defaulted "name" name .text "")).manifest LocalReference.shape

end EdgePlane.Kubernetes
