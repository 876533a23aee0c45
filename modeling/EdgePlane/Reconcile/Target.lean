import EdgePlane.Component.Basic
import EdgePlane.Outcome
import EdgePlane.Sync

/-!
# Targets

Where the objects of a control plane go and who owns them.
-/

namespace EdgePlane

open Kubernetes

/-- The namespace for a control plane's objects, and the owner of all of them. -/
structure Target where
  namespaceName : String
  owner : OwnerReference
  deriving Repr, DecidableEq

namespace Target

/-- The target of a control plane. It needs a namespace, a name and an identity. -/
def of (cp : ControlPlane) : Except Failure Target :=
  match cp.metadata.namespaceName with
  | none => .error (.invalidConfig ("ControlPlane " ++ cp.name ++ " has no namespace"))
  | some ns =>
    match cp.owner? with
    | none => .error (.invalidConfig ("ControlPlane " ++ ns ++ "/" ++ cp.name ++ " has no uid"))
    | some owner => .ok ⟨ns, owner⟩

/-- Brings an object about that is replaced when it exists. -/
def syncObject (target : Target) (o : Object) : Attempt SyncResult := sync target.owner .apply o

/-- Brings an object about that is created only once. -/
def syncOnce (target : Target) (o : Object) : Attempt SyncResult := sync target.owner .createOnly o

/-- Brings the account of a component about, and its role and binding if it may do anything. -/
def syncIdentity (target : Target) (component : Component) : Attempt Unit := do
  let ns := target.namespaceName
  let _ ← target.syncObject (.serviceAccount (component.serviceAccount ns))
  if !component.rules.isEmpty then
    let _ ← target.syncObject (.role (component.role ns))
    let _ ← target.syncObject (.roleBinding (component.roleBinding ns))

/-- Brings the service of a component about if it has one. -/
def syncService (target : Target) (component : Component) : Attempt Unit := do
  if let some service := component.serviceObject target.namespaceName then
    let _ ← target.syncObject (.service service)

end Target

/-- The outcome of an attempt; a failure is one, too. -/
def settle (attempt : Attempt Outcome) : Program Outcome := do
  match ← attempt.run with
  | .ok outcome => return outcome
  | .error failure => return .failed failure

end EdgePlane
