import EdgePlane.Reconcile.Controller
import EdgePlane.Reconcile.PortManager
import EdgePlane.Reconcile.Router

/-!
# The life of a control plane

A control plane is in the phase of deploying until a pass finds all its components as declared. From
then on it is ready, and a pass does nothing.
-/

namespace EdgePlane.Reconcile

open ControlPlane (Phase Condition)

/-- Brings all components about, side by side, and merges their outcomes. -/
def converge (settings : Setup) (cp : ControlPlane) : Program Outcome := do
  return Outcome.mergeAll
    (← Program.joinAll [router settings cp, controller settings cp, portManager settings cp])

/-- Makes a phase the only condition of a control plane. -/
def enter (cp : ControlPlane) (phase : Phase) : Attempt Unit := do
  let now ← Attempt.ofProgram (.perform .now)
  ExceptT.mk (.perform (.record cp [Condition.active phase.conditionType now]))

/-- A pass over a control plane that is being deployed. -/
def deploy (settings : Setup) (cp : ControlPlane) : Program Outcome := do
  let outcome ← converge settings cp
  if outcome.isClean then
    settle do
      enter cp .ready
      return .requeueNow
  else return outcome

/-- A pass over a control plane in its phase; without one that is known it enters the first. -/
def advance (settings : Setup) (cp : ControlPlane) : Program Outcome :=
  match cp.phase with
  | some .ready => return .proceed
  | some .deploying => deploy settings cp
  | none =>
    settle do
      enter cp .deploying
      Attempt.ofProgram (deploy settings cp)

/-- A pass over the control plane of a name. One that does not exist any more needs nothing: its objects
go with it. -/
def dispatch (settings : Setup) (ns name : String) : Program Outcome := do
  match ← Program.perform (.fetch ns name) with
  | .ok (some cp) => advance settings cp
  | .ok none =>
    Program.perform (.forget (ns ++ "/" ++ name))
    return .stop
  | .error failure => return .failed failure

end EdgePlane.Reconcile
