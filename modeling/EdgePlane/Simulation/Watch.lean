import EdgePlane.Reconcile.Lifecycle
import EdgePlane.Schedule
import EdgePlane.Simulation.World

/-!
# Watching control planes

The visits of control planes over a stretch of time in a world where nothing else happens. Every visit
is put off by a second, in which further causes for it would be taken together. At most three passes run
at once; one that sleeps lets the others go on.
-/

namespace EdgePlane.Simulation

/-- How many passes run at once. -/
def concurrency : Nat := 3

/-- By how much every visit is put off. -/
def debounce : Duration := .ofSeconds 1

/-- A control plane by its namespace and name. -/
structure Visitor where
  namespaceName : String
  name : String
  deriving Repr, DecidableEq

/-- The key of a control plane in messages and in the table of retries. -/
def Visitor.key (v : Visitor) : String := v.namespaceName ++ "/" ++ v.name

/-- The visits that are due and the passes that sleep, each with its time, and the visits so far. -/
structure Watch where
  world : World
  due : List (Duration × Visitor)
  asleep : List (Duration × Visitor × Program Outcome)
  passes : List (Duration × Visitor)

namespace Watch

/-- The earliest entry of a list, the first of equal ones, and the others. -/
def earliest? {α : Type} : List (Duration × α) → Option ((Duration × α) × List (Duration × α))
  | [] => none
  | e :: rest =>
    match earliest? rest with
    | none => some (e, [])
    | some (first, others) =>
      if e.1 ≤ first.1 then some (e, rest) else some (first, e :: others)

/-- The world at a time that is not in its past. -/
def movedTo (w : World) (t : Duration) : World := { w with clock := w.clock.longer t }

/-- What follows from a pass that has run as far as it can. The next visit of its control plane is due at
a whole millisecond. -/
def settle (watch : Watch) (visitor : Visitor) (result : (Outcome ⊕ Duration × Program Outcome) × World) :
    Watch :=
  let world := result.2
  match result.1 with
  | .inr (d, rest) =>
    { watch with world, asleep := watch.asleep ++ [(world.wakeTime d, visitor, rest)] }
  | .inl outcome =>
    let (action, retries) := world.retries.conclude visitor.key outcome.decision
    let world := { world with retries }
    match action with
    | .awaitChange => { watch with world }
    | .requeue delay =>
      let due := (world.clock + delay + debounce).upToMillisecond
      { watch with world, due := watch.due ++ [(due, visitor)] }

/-- Goes on with a pass that was asleep. -/
def wake (watch : Watch) (t : Duration) (visitor : Visitor) (rest : Program Outcome) : Watch :=
  watch.settle visitor (rest.runAwake World.answer (movedTo watch.world t))

/-- Starts a pass, and the log anew. -/
def visit (settings : Setup) (watch : Watch) (t : Duration) (visitor : Visitor) : Watch :=
  let world := { movedTo watch.world t with log := [] }
  let watch := { watch with passes := watch.passes ++ [(world.clock, visitor)] }
  watch.settle visitor
    ((Reconcile.dispatch settings visitor.namespaceName visitor.name).runAwake World.answer world)

/-- The next thing to happen before `stop`: a pass wakes, or one starts if not too many run. -/
def step? (settings : Setup) (stop : Duration) (watch : Watch) : Option Watch :=
  let sleeper := earliest? watch.asleep
  let next := if watch.asleep.length < concurrency then earliest? watch.due else none
  match sleeper, next with
  | some ((t, visitor, rest), asleep), some ((t', visitor'), due) =>
    if t ≤ t' then
      if t < stop then some (wake { watch with asleep } t visitor rest) else none
    else if t' < stop then some (visit settings { watch with due } t' visitor') else none
  | some ((t, visitor, rest), asleep), none =>
    if t < stop then some (wake { watch with asleep } t visitor rest) else none
  | none, some ((t', visitor'), due) =>
    if t' < stop then some (visit settings { watch with due } t' visitor') else none
  | none, none => none

/-- Lets things happen, at most `fuel` of them. -/
def steps (settings : Setup) (stop : Duration) : Nat → Watch → Watch
  | 0, watch => watch
  | fuel + 1, watch =>
    match watch.step? settings stop with
    | none => watch
    | some watch => steps settings stop fuel watch

end Watch

/-- Visits the listed control planes for so many seconds. The results are the visits, by the time since
the start, and the world at the end. Between two visits of one control plane lies at least a second, and a
pass sleeps less often than there are attempts in its two polls. -/
def World.watch (w : World) (settings : Setup) (visitors : List Visitor) (seconds : Nat) :
    List (Duration × Visitor) × World :=
  let start := w.clock
  let stop := start + Duration.ofSeconds seconds
  let distinct := visitors.eraseDups
  let fuel := (seconds + 2) * (distinct.length + 1) * (settings.retry.attempts + 2)
  let watch := Watch.steps settings stop fuel
    ⟨w, distinct.map fun v => (start + debounce, v), [], []⟩
  (watch.passes.map fun p => (p.1 - start, p.2), watch.world.wokenAt stop)

end EdgePlane.Simulation
