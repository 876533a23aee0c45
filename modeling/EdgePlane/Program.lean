import EdgePlane.ControlPlane.Basic
import EdgePlane.Duration
import EdgePlane.Failure
import EdgePlane.Kubernetes.Object
import EdgePlane.Management.Model

/-!
# Programs

What a pass does is a program: a tree of calls to the outside, each with a branch for every answer. A
program says nothing about who answers, so the same program can be run against any cluster and any
management interface. Programs can be run side by side; they then take turns where one of them sleeps.
After a sleep that takes no time, the outside says whether it is the turn of another.
-/

namespace EdgePlane

open Kubernetes Management

/-- A call to the outside of the operator. -/
inductive Call
  /-- Looks up an object. -/
  | get (a : Address)
  /-- Stores an object that does not exist yet. -/
  | create (o : Object)
  /-- Stores an object in place of the one that exists. -/
  | apply (o : Object)
  /-- Replaces the pods of a deployment. -/
  | restart (ns name : String)
  /-- Looks up a control plane. -/
  | fetch (ns name : String)
  /-- Replaces the conditions of a control plane. -/
  | record (cp : ControlPlane) (conditions : List ControlPlane.Condition)
  /-- Prepares to talk to the management interface at a URL. -/
  | connect (url : String)
  | status (url : String)
  | signUp (url : String) (request : SignUp)
  | logIn (url : String) (request : LogIn)
  | changePassword (url token : String) (request : PasswordChange)
  | putRouter (url token : String) (router : DefaultRouter)
  /-- Lets time pass. The answer says whether others get their turn, as they do whenever it takes any
  time at all. -/
  | sleep (d : Duration)
  /-- Reads the clock. -/
  | now
  /-- Draws a key that was never drawn before. -/
  | drawKey
  /-- Drops the retries of an object that no longer exists. -/
  | forget (key : String)
  deriving Inhabited

/-- What a call is answered with. -/
abbrev Call.Reply : Call → Type
  | .get _ => Except Failure (Option Object)
  | .create _ => Except Failure Unit
  | .apply _ => Except Failure Unit
  | .restart _ _ => Except Failure Unit
  | .fetch _ _ => Except Failure (Option ControlPlane)
  | .record _ _ => Except Failure Unit
  | .connect _ => Except Failure Unit
  | .status _ => Except ApiError ControllerStatus
  | .signUp _ _ => Except ApiError Unit
  | .logIn _ _ => Except ApiError AccessToken
  | .changePassword _ _ _ => Except ApiError Unit
  | .putRouter _ _ _ => Except ApiError Unit
  | .sleep _ => Bool
  | .now => Instant
  | .drawKey => KeyPair
  | .forget _ => Unit

/-- A program with a result in `α`. -/
inductive Program (α : Type) : Type
  | pure (a : α)
  | call (c : Call) (k : c.Reply → Program α)

namespace Program

variable {α β σ : Type}

/-- The program that goes on with what another results in. -/
def bind (p : Program α) (f : α → Program β) : Program β :=
  match p with
  | .pure a => f a
  | .call c k => .call c fun r => (k r).bind f

instance : Monad Program where
  pure := Program.pure
  bind := Program.bind

/-- A program of one call. -/
def perform (c : Call) : Program c.Reply := .call c .pure

/-- Sleeps before the rest of a program. -/
def sleepThen (d : Duration) (p : Program α) : Program α := .call (.sleep d) fun _ => p

/-- Runs the second program while the first one sleeps for another `d`, which is some time. When both
sleep, the time passes until the first of them wakes; the first program goes before the second. -/
def whileAsleep (d : Duration) (resume : Program β → Program (α × β)) :
    Program β → Program (α × β)
  | .pure b => sleepThen d (resume (.pure b))
  | .call (.sleep e) k =>
    if d ≤ e then sleepThen d (resume (sleepThen (e - d) (k true)))
    else sleepThen e (whileAsleep (d - e) resume (k true))
  | .call c k => .call c fun r => whileAsleep d resume (k r)

/-- Gives the second program its turn, which is over when it ends or sleeps. -/
def giveTurn (resume : Program β → Program (α × β)) : Program β → Program (α × β)
  | .pure b => resume (.pure b)
  | .call (.sleep e) k => resume (.call (.sleep e) k)
  | .call c k => .call c fun r => giveTurn resume (k r)

/-- Runs two programs side by side: the first until it ends or sleeps, then the second. -/
def both : Program α → Program β → Program (α × β)
  | .pure a, q => q.bind fun b => .pure (a, b)
  | .call (.sleep d) k, q =>
    if d = .zero then
      .call (.sleep d) fun isTurn => if isTurn then giveTurn (both (k true)) q else both (k false) q
    else whileAsleep d (both (k true)) q
  | .call c k, q => .call c fun r => both (k r) q

/-- Beside a program that has ended, another just runs. -/
theorem both_pure (a : α) (q : Program β) : both (.pure a) q = q.bind fun b => .pure (a, b) := rfl

/-- Runs programs side by side and collects what they result in, in their order. -/
def joinAll : List (Program α) → Program (List α)
  | [] => .pure []
  | p :: ps => (both p (joinAll ps)).bind fun r => .pure (r.1 :: r.2)

/-- Runs a program against a state that answers its calls. -/
def run (answer : (c : Call) → σ → c.Reply × σ) : Program α → σ → α × σ
  | .pure a, s => (a, s)
  | .call c k, s => run answer (k (answer c s).1) (answer c s).2

/-- Runs a program up to its end or to the next time that it sleeps for any time at all. -/
def runAwake (answer : (c : Call) → σ → c.Reply × σ) :
    Program α → σ → (α ⊕ Duration × Program α) × σ
  | .pure a, s => (.inl a, s)
  | .call (.sleep d) k, s =>
    if d = .zero then runAwake answer (k false) (answer (.sleep d) s).2 else (.inr (d, k true), s)
  | .call c k, s => runAwake answer (k (answer c s).1) (answer c s).2

end Program

/-- A program that may fail. -/
abbrev Attempt := ExceptT Failure Program

namespace Attempt

variable {α : Type}

/-- The attempt that ends as an `Except` says. -/
def ofExcept (r : Except Failure α) : Attempt α := ExceptT.mk (.pure r)

/-- A program that cannot fail. -/
def ofProgram (p : Program α) : Attempt α := ExceptT.lift p

/-- Looks for an object. -/
def get (a : Address) : Attempt (Option Object) := ExceptT.mk (.perform (.get a))

/-- Creates an object. -/
def create (o : Object) : Attempt Unit := ExceptT.mk (.perform (.create o))

/-- Makes an object as it is declared. -/
def apply (o : Object) : Attempt Unit := ExceptT.mk (.perform (.apply o))

/-- Replaces the pods of a Deployment. -/
def restart (ns name : String) : Attempt Unit := ExceptT.mk (.perform (.restart ns name))

/-- Makes a client for a URL. -/
def connect (url : String) : Attempt Unit := ExceptT.mk (.perform (.connect url))

/-- Draws a fresh pair of keys. -/
def drawKey : Attempt KeyPair := ofProgram (.perform .drawKey)

/-- Waits. -/
def sleep (d : Duration) : Attempt Unit := ofProgram (.call (.sleep d) fun _ => .pure ())

/-- The outcome of a call of the management interface, with its error as it is. -/
def exactly (p : Program (Except ApiError α)) : Attempt (Except ApiError α) := ofProgram p

/-- A call of the management interface, with its error as a failure. -/
def viaApi (p : Program (Except ApiError α)) : Attempt α := do
  match ← exactly p with
  | .ok a => return a
  | .error e => throw (.api e)

/-- A secret, if there is one of that name. -/
def getSecret (ns name : String) : Attempt (Option Secret) := do
  return (← get ⟨.secret, ns, name⟩).bind (·.secret?)

/-- The address that a service's load balancer was given. -/
def discoverAddress (ns name : String) : Attempt (Option String) := do
  return ((← get ⟨.service, ns, name⟩).bind (·.service?)).bind (·.externalAddress)

end Attempt

end EdgePlane
