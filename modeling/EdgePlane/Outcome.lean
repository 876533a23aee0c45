import EdgePlane.Duration
import EdgePlane.Failure

/-!
# Outcomes

What a pass reports, how the reports of several components are merged into one, and what the report
means for the next visit.
-/

namespace EdgePlane

/-- The report of a pass: a failure, whether to stop for good, and whether and when to come again. The
delay has a meaning only together with a wish to come again. -/
structure Outcome where
  failure : Option Failure
  terminal : Bool
  requeue : Bool
  requeueAfter : Duration
  deriving Repr, DecidableEq

/-- When an object is visited next. -/
inductive Decision
  | stop
  | requeueNow
  | requeueAfter (delay : Duration)
  | retryOnError (cause : Failure)
  deriving Repr, DecidableEq

/-- The name of a decision. -/
def Decision.name : Decision → String
  | .stop => "Stop"
  | .requeueNow => "RequeueNow"
  | .requeueAfter _ => "RequeueAfter"
  | .retryOnError _ => "RetryOnError"

namespace Outcome

/-- Everything is as declared. -/
def proceed : Outcome := ⟨none, false, false, .zero⟩

/-- There is nothing to do any more. -/
def stop : Outcome := { proceed with terminal := true }

/-- Come again at once. -/
def requeueNow : Outcome := { proceed with requeue := true }

/-- Another pass is needed after a delay. -/
def requeueIn (delay : Duration) : Outcome := { proceed with requeue := true, requeueAfter := delay }

/-- Come again because of a failure. -/
def failed (failure : Failure) : Outcome := { proceed with failure := some failure }

/-- Whether there is no failure and no wish to stop or to come again. -/
def isClean (o : Outcome) : Bool := o.failure.isNone && !o.terminal && !o.requeue

/-- Two failures become one with both wordings, each on a line; a single one stays as it is. -/
def mergeFailures : Option Failure → Option Failure → Option Failure
  | some a, some b => some (.aggregated (a.message ++ "\n" ++ b.message))
  | a, b => a.or b

/-- The longer of the delays that are asked for. -/
def mergeDelays (a b : Outcome) : Duration :=
  match a.requeue, b.requeue with
  | true, true => a.requeueAfter.longer b.requeueAfter
  | true, false => a.requeueAfter
  | false, true => b.requeueAfter
  | false, false => .zero

/-- The outcome of two components: their failures together, and the visit that suits both. -/
def merge (a b : Outcome) : Outcome where
  failure := mergeFailures a.failure b.failure
  terminal := a.terminal || b.terminal
  requeue := a.requeue || b.requeue
  requeueAfter := mergeDelays a b

/-- All reports as one, in their order. -/
def mergeAll (outcomes : List Outcome) : Outcome := outcomes.foldl merge proceed

/-- Reports merged from the first on. -/
def mergeLeft : List Outcome → Outcome
  | [] => proceed
  | o :: rest => rest.foldl merge o

/-- Reports merged from the last on. -/
def mergeRight : List Outcome → Outcome
  | [] => proceed
  | [o] => o
  | o :: rest => o.merge (mergeRight rest)

/-- The decision: stopping for good comes before a failure, and a failure before a wish. -/
def decision (o : Outcome) : Decision :=
  if o.terminal then .stop
  else
    match o.failure with
    | some failure => .retryOnError failure
    | none =>
      if !o.requeue then .stop
      else if o.requeueAfter = .zero then .requeueNow
      else .requeueAfter o.requeueAfter

end Outcome

end EdgePlane
