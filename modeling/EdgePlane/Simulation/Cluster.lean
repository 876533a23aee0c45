import EdgePlane.ControlPlane.Basic
import EdgePlane.Failure
import EdgePlane.Kubernetes.Object

/-!
# A cluster in memory

Objects and control planes by their places, with a record of what was done to them. Writes of the status
and reads of control planes can be made to fail.
-/

namespace EdgePlane.Simulation

open Kubernetes

/-- A cluster: its objects, its control planes, and what was done to them. -/
structure Cluster where
  objects : Dict Address Object := {}
  controlPlanes : Dict (String × String) ControlPlane := {}
  creates : List String := []
  applies : List String := []
  restarts : List String := []
  statusWrites : Nat := 0
  rejectsStatus : Bool := false
  failsReads : Bool := false
  deriving Inhabited

namespace Cluster

/-- The place of a control plane. -/
def placeOf (cp : ControlPlane) : String × String :=
  (cp.metadata.namespaceName.getD "", cp.metadata.name.getD "")

/-- The object at an address. -/
def object? (c : Cluster) (a : Address) : Option Object := c.objects.get? a

/-- The cluster with an object put in its place. -/
def insert (c : Cluster) (o : Object) : Cluster := { c with objects := c.objects.insert o.address o }

/-- The number of objects of a kind. -/
def count (c : Cluster) (kind : Kind) : Nat := (c.objects.entries.filter (·.1.kind = kind)).length

/-- The control plane of a name. -/
def controlPlane? (c : Cluster) (ns name : String) : Option ControlPlane :=
  c.controlPlanes.get? (ns, name)

/-- The cluster with a control plane put in its place. -/
def insertControlPlane (c : Cluster) (cp : ControlPlane) : Cluster :=
  { c with controlPlanes := c.controlPlanes.insert (placeOf cp) cp }

/-- The recorded conditions of a control plane. -/
def conditions (c : Cluster) (ns name : String) : List ControlPlane.Condition :=
  ((c.controlPlane? ns name).map (·.conditions)).getD []

/-- Creates an object where there is none. -/
def create (c : Cluster) (o : Object) : Except Failure Unit × Cluster :=
  if (c.object? o.address).isSome then (.error (.reconciliation (o.key ++ " already exists")), c)
  else (.ok (), { c.insert o with creates := c.creates ++ [o.key] })

/-- Stores an object in place of another, whose reported status stays. -/
def apply (c : Cluster) (o : Object) : Except Failure Unit × Cluster :=
  let merged := o.keepingStatus (c.object? o.address)
  (.ok (), { c with objects := c.objects.insert o.address merged, applies := c.applies ++ [o.key] })

/-- Replaces the pods of a Deployment that exists. -/
def restart (c : Cluster) (ns name : String) : Except Failure Unit × Cluster :=
  let place := ns ++ "/" ++ name
  if (c.object? ⟨.deployment, ns, name⟩).isNone then
    (.error (.reconciliation ("deployment " ++ place ++ " not found")), c)
  else (.ok (), { c with restarts := c.restarts ++ [place] })

/-- Looks a control plane up. -/
def fetch (c : Cluster) (ns name : String) : Except Failure (Option ControlPlane) :=
  if c.failsReads then .error (.reconciliation "apiserver unavailable")
  else .ok (c.controlPlane? ns name)

/-- Replaces the conditions of a control plane, which is stored if it was not there. -/
def record (c : Cluster) (cp : ControlPlane) (conditions : List ControlPlane.Condition) :
    Except Failure Unit × Cluster :=
  if c.rejectsStatus then (.error (.reconciliation "status write rejected"), c)
  else
    let stored := (c.controlPlanes.get? (placeOf cp)).getD cp
    (.ok (), { c with
      statusWrites := c.statusWrites + 1
      controlPlanes := c.controlPlanes.insert (placeOf cp) { stored with status := some ⟨conditions⟩ } })

/-- Gives a service's load balancer an address. -/
def assignAddress (c : Cluster) (ns name ip : String) : Cluster :=
  let place : Address := ⟨.service, ns, name⟩
  match c.object? place with
  | some (.service s) =>
    { c with objects := c.objects.insert place (.service { s with status := some (Service.statusAt ip) }) }
  | _ => c

end Cluster

end EdgePlane.Simulation
