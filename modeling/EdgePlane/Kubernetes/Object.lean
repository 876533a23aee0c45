import EdgePlane.Kubernetes.Rbac
import EdgePlane.Kubernetes.Secret
import EdgePlane.Kubernetes.Service
import EdgePlane.Kubernetes.VolumeClaim
import EdgePlane.Kubernetes.Workload

/-!
# Cluster objects

The objects that the operator manages, of all their kinds.
-/

namespace EdgePlane.Kubernetes

/-- The kinds of objects that the operator manages. -/
inductive Kind
  | serviceAccount
  | role
  | roleBinding
  | service
  | deployment
  | volumeClaim
  | secret
  deriving Repr, DecidableEq

namespace Kind

/-- All kinds. -/
def all : List Kind :=
  [.serviceAccount, .role, .roleBinding, .service, .deployment, .volumeClaim, .secret]

/-- The name of a kind. -/
def name : Kind → String
  | .serviceAccount => "ServiceAccount"
  | .role => "Role"
  | .roleBinding => "RoleBinding"
  | .service => "Service"
  | .deployment => "Deployment"
  | .volumeClaim => "PersistentVolumeClaim"
  | .secret => "Secret"

/-- The kind of a name. -/
def ofName? (s : String) : Option Kind := all.find? (·.name = s)

theorem ofName?_name (k : Kind) : ofName? k.name = some k := by cases k <;> rfl

end Kind

/-- An object of one of these kinds. -/
inductive Object
  | serviceAccount (o : ServiceAccount)
  | role (o : Role)
  | roleBinding (o : RoleBinding)
  | service (o : Service)
  | deployment (o : Deployment)
  | volumeClaim (o : VolumeClaim)
  | secret (o : Secret)
  deriving Repr, Inhabited

/-- Where an object is found. -/
structure Address where
  kind : Kind
  namespaceName : String
  name : String
  deriving Repr, DecidableEq

/-- The place of an object in messages. -/
def Address.key (a : Address) : String := a.kind.name ++ " " ++ a.namespaceName ++ "/" ++ a.name

namespace Object

/-- The kind of an object. -/
def kind : Object → Kind
  | .serviceAccount _ => .serviceAccount
  | .role _ => .role
  | .roleBinding _ => .roleBinding
  | .service _ => .service
  | .deployment _ => .deployment
  | .volumeClaim _ => .volumeClaim
  | .secret _ => .secret

/-- The metadata of an object. -/
def metadata : Object → Metadata
  | .serviceAccount o => o.metadata
  | .role o => o.metadata
  | .roleBinding o => o.metadata
  | .service o => o.metadata
  | .deployment o => o.metadata
  | .volumeClaim o => o.metadata
  | .secret o => o.metadata

/-- The object with its metadata changed. -/
def mapMetadata (f : Metadata → Metadata) : Object → Object
  | .serviceAccount o => .serviceAccount { o with metadata := f o.metadata }
  | .role o => .role { o with metadata := f o.metadata }
  | .roleBinding o => .roleBinding { o with metadata := f o.metadata }
  | .service o => .service { o with metadata := f o.metadata }
  | .deployment o => .deployment { o with metadata := f o.metadata }
  | .volumeClaim o => .volumeClaim { o with metadata := f o.metadata }
  | .secret o => .secret { o with metadata := f o.metadata }

/-- The name of an object, empty if it has none. -/
def name (o : Object) : String := o.metadata.name.getD ""

/-- The namespace of an object, empty if it has none. -/
def namespaceName (o : Object) : String := o.metadata.namespaceName.getD ""

/-- Where an object is found. -/
def address (o : Object) : Address := ⟨o.kind, o.namespaceName, o.name⟩

/-- The place of an object in messages. -/
def key (o : Object) : String := o.address.key

/-- The object in another namespace. -/
def inNamespace (namespaceName : String) (o : Object) : Object :=
  o.mapMetadata ({ · with namespaceName := some namespaceName })

/-- The object with one owner. -/
def ownedBy (owner : OwnerReference) (o : Object) : Object :=
  o.mapMetadata ({ · with ownerReferences := some [owner] })

/-- The secret that an object is. -/
def secret? : Object → Option Secret
  | .secret o => some o
  | _ => none

/-- The service that an object is. -/
def service? : Object → Option Service
  | .service o => some o
  | _ => none

/-- Writes an object in the form of its kind. -/
def encode : Object → Json
  | .serviceAccount o => ServiceAccount.codec.encode o
  | .role o => Role.codec.encode o
  | .roleBinding o => RoleBinding.codec.encode o
  | .service o => Service.codec.encode o
  | .deployment o => Deployment.codec.encode o
  | .volumeClaim o => VolumeClaim.codec.encode o
  | .secret o => Secret.codec.encode o

/-- Reads an object of a kind. -/
def decode (kind : Kind) (v : Json) : Option Object :=
  match kind with
  | .serviceAccount => (ServiceAccount.codec.decode v).map .serviceAccount
  | .role => (Role.codec.decode v).map .role
  | .roleBinding => (RoleBinding.codec.decode v).map .roleBinding
  | .service => (Service.codec.decode v).map .service
  | .deployment => (Deployment.codec.decode v).map .deployment
  | .volumeClaim => (VolumeClaim.codec.decode v).map .volumeClaim
  | .secret => (Secret.codec.decode v).map .secret

/-- What the cluster reported of a service or a deployment stays when one is applied that reports
nothing. -/
def keepingStatus (existing : Option Object) (desired : Object) : Object :=
  match existing, desired with
  | some (.service old), .service new => .service { new with status := new.status.or old.status }
  | some (.deployment old), .deployment new =>
    .deployment { new with status := new.status.or old.status }
  | _, desired => desired

@[simp] theorem kind_mapMetadata (f : Metadata → Metadata) (o : Object) :
    (o.mapMetadata f).kind = o.kind := by
  cases o <;> rfl

@[simp] theorem metadata_mapMetadata (f : Metadata → Metadata) (o : Object) :
    (o.mapMetadata f).metadata = f o.metadata := by
  cases o <;> rfl

@[simp] theorem address_ownedBy (owner : OwnerReference) (o : Object) :
    (o.ownedBy owner).address = o.address := by
  cases o <;> rfl

end Object

end EdgePlane.Kubernetes
