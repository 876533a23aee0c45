import EdgePlane.Backoff
import EdgePlane.Outcome

/-!
# Visits

What the end of a pass means for the next visit of its object. A pass that failed is tried again after a
delay that grows with each failure; any other pass starts the delays anew.
-/

namespace EdgePlane

/-- When an object is visited again. -/
inductive Action
  | awaitChange
  | requeue (delay : Duration)
  deriving Repr, DecidableEq

namespace Retries

/-- The action of a decision; a failure is passed on. -/
def act (retries : Retries) (key : String) : Decision → Except Failure Action × Retries
  | .stop => (.ok .awaitChange, retries.settle key)
  | .requeueNow => (.ok (.requeue .zero), retries.settle key)
  | .requeueAfter delay => (.ok (.requeue delay), retries.settle key)
  | .retryOnError cause => (.error cause, retries)

/-- One more failure of an object, and the delay until it is visited again. -/
def fail (retries : Retries) (key : String) : (Duration × UInt32) × Retries :=
  (retries.countError key).delay key

/-- The action after a pass with a given decision. -/
def conclude (retries : Retries) (key : String) (decision : Decision) : Action × Retries :=
  match retries.act key decision with
  | (.ok action, retries) => (action, retries)
  | (.error _, retries) =>
    let ((delay, _), retries) := retries.fail key
    (.requeue delay, retries)

end Retries

end EdgePlane
