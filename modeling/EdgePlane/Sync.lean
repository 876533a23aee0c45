import EdgePlane.Program

/-!
# Syncing objects

An object that is missing is created. One that exists is replaced, or kept where it is meant to be
created only once. Nothing is ever deleted: an object goes with its owner.
-/

namespace EdgePlane

open Kubernetes

/-- How an object that exists is treated. -/
inductive SyncMode
  | apply
  | createOnly
  deriving Repr, DecidableEq

/-- The name of a mode in messages. -/
def SyncMode.name : SyncMode → String
  | .apply => "Apply"
  | .createOnly => "CreateOnly"

/-- What became of an object. -/
inductive SyncResult
  | created
  | updated
  | kept
  deriving Repr, DecidableEq

/-- The name of a result in messages. -/
def SyncResult.name : SyncResult → String
  | .created => "Created"
  | .updated => "Updated"
  | .kept => "Kept"

/-- Whether the object existed before. -/
def SyncResult.existed (r : SyncResult) : Bool := r ≠ .created

/-- Brings an object about, owned by `owner`. -/
def sync (owner : OwnerReference) (mode : SyncMode) (o : Object) : Attempt SyncResult := do
  let o := o.ownedBy owner
  match ← Attempt.get o.address, mode with
  | none, _ => Attempt.create o; return .created
  | some _, .apply => Attempt.apply o; return .updated
  | some _, .createOnly => return .kept

end EdgePlane
