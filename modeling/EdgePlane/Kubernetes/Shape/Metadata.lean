import EdgePlane.Json.Shape

/-!
# The shape of metadata

What objects of many kinds have: their metadata, conditions, selectors and references to other objects.
-/

namespace EdgePlane.Kubernetes

open Json

/-- A list of texts. -/
def texts : Shape := .list .text

/-- Texts by name, such as labels or amounts of resources. -/
def textsByName : Shape := .dict .text

/-- An owner: its kind, its name and its identity. -/
def OwnerReference.shape : Shape :=
  .record [("blockOwnerDeletion", .bool), ("controller", .bool)]
    [("apiVersion", .text), ("kind", .text), ("name", .text), ("uid", .text)]

/-- What one manager says of the fields that it manages. -/
def managedFields : Shape :=
  .record [("apiVersion", .text), ("fieldsType", .text), ("fieldsV1", .any), ("manager", .text),
    ("operation", .text), ("subresource", .text), ("time", .instant)] []

/-- The metadata of any object. -/
def Metadata.shape : Shape :=
  .record [("annotations", textsByName), ("creationTimestamp", .instant),
    ("deletionGracePeriodSeconds", .int64), ("deletionTimestamp", .instant), ("finalizers", texts),
    ("generateName", .text), ("generation", .int64), ("labels", textsByName),
    ("managedFields", .list managedFields), ("name", .text), ("namespace", .text),
    ("ownerReferences", .list OwnerReference.shape), ("resourceVersion", .text), ("selfLink", .text),
    ("uid", .text)] []

/-- What is reported of one aspect of an object. -/
def condition : Shape :=
  .record [("observedGeneration", .int64)]
    [("lastTransitionTime", .instant), ("message", .text), ("reason", .text), ("status", .text),
      ("type", .text)]

/-- A condition on labels or fields: a name, how its value is compared, and with which values. -/
def requirement : Shape :=
  .record [("values", texts)] [("key", .text), ("operator", .text)]

/-- Which labels objects must have. -/
def LabelSelector.shape : Shape :=
  .record [("matchExpressions", .list requirement), ("matchLabels", textsByName)] []

/-- A reference by name. -/
def LocalReference.shape : Shape := .record [] [("name", .text)]

/-- A reference to an object of any kind. -/
def objectReference : Shape :=
  .record [("apiVersion", .text), ("fieldPath", .text), ("kind", .text), ("name", .text),
    ("namespace", .text), ("resourceVersion", .text), ("uid", .text)] []

/-- The members of an object beside its version and its kind. -/
def objectShape (optional required : List (String × Shape)) : Shape :=
  .record optional (("metadata", Metadata.shape) :: required)

end EdgePlane.Kubernetes
