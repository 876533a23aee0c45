import EdgePlane.Backoff
import EdgePlane.Json.Printer
import EdgePlane.Program
import EdgePlane.Simulation.ApiServer
import EdgePlane.Simulation.Cluster

/-!
# A world for programs

All that the operator's calls reach: a cluster, a management interface for each URL, the retries of
objects, a clock that only sleeping moves, and keys to draw. Calls are written to a log. Faults can be
planted: a call whose text starts in a given way then fails before it reaches anything.
-/

namespace EdgePlane.Simulation

open Kubernetes Management Text

/-- The text of a call in the log. Calls that reach neither the cluster nor an interface have none. -/
def callText : Call → Option String
  | .get a => some ("get " ++ a.key)
  | .create o => some ("create " ++ o.key)
  | .apply o => some ("apply " ++ o.key)
  | .restart ns name => some ("restart " ++ ns ++ "/" ++ name)
  | .fetch ns name => some ("get_control_plane " ++ ns ++ "/" ++ name)
  | .record _ conditions =>
    some ("write_conditions " ++ ",".intercalate (conditions.map fun c => c.type ++ "=" ++ c.status))
  | .connect url => some ("client " ++ url)
  | .status url => some ("GET " ++ url ++ "/status")
  | .signUp url request => some ("POST " ++ url ++ "/user/signup " ++ (SignUp.codec.encode request).render)
  | .logIn url request => some ("POST " ++ url ++ "/user/login " ++ (LogIn.codec.encode request).render)
  | .changePassword url token request =>
    some ("PATCH " ++ url ++ "/user/password " ++ token ++ " " ++
      (PasswordChange.codec.encode request).render)
  | .putRouter url token router =>
    some ("PUT " ++ url ++ "/router " ++ token ++ " " ++ (DefaultRouter.codec.encode router).render)
  | .sleep _ => none
  | .now => none
  | .drawKey => none
  | .forget _ => none

/-- A planted fault: after `after` calls whose text starts with `start`, the next `times` of them fail,
with one error for calls of an interface and another for all others. -/
structure Fault where
  start : String
  after : Nat
  times : Nat
  failure : Failure
  apiError : ApiError
  deriving Repr, DecidableEq

/-- The first fault that a call sets off, and the faults after the call. A fault that still lets calls
pass counts the call, and the search goes on. -/
def Fault.trigger (text : String) : List Fault → Option Fault × List Fault
  | [] => (none, [])
  | f :: rest =>
    let search (f : Fault) : Option Fault × List Fault :=
      let (fired, rest) := trigger text rest
      (fired, f :: rest)
    if !text.startsWith f.start then search f
    else if f.after ≠ 0 then search { f with after := f.after - 1 }
    else if f.times ≠ 0 then (some f, { f with times := f.times - 1 } :: rest)
    else search f

/-- How many sleeps that take no time are over at once, before one of them is a turn for others. -/
def patience : Nat := 128

/-- A world: a cluster, management interfaces, a clock, and what else a program may ask for. -/
structure World where
  cluster : Cluster := {}
  apis : Dict String ApiServer := {}
  /-- The URLs that clients were made for. -/
  requested : List String := []
  retries : Retries := {}
  faults : List Fault := []
  log : List String := []
  clock : Duration := .zero
  /-- How many more sleeps that take no time are over at once. -/
  patienceLeft : Nat := patience
  keysDrawn : Nat := 0
  deriving Inhabited

namespace World

/-- The day on which the clock starts, which is later than all days that objects speak of. -/
def firstDay : Int := (⟨262142, 12, 31⟩ : CalendarDate).toDay + 1

/-- The time. -/
def now (w : World) : Instant :=
  ⟨firstDay + (w.clock.seconds / 86400 : Nat), w.clock.seconds % 86400, w.clock.subsecond⟩

/-- The management interface at a URL; a new one where none was asked before. -/
def api (w : World) (url : String) : ApiServer := (w.apis.get? url).getD {}

/-- The world with another interface at a URL. -/
def setApi (w : World) (url : String) (s : ApiServer) : World :=
  { w with apis := w.apis.insert url s }

/-- Writes a call to the log, and finds the fault that it sets off. -/
def announce (w : World) (c : Call) : Option Fault × World :=
  match callText c with
  | none => (none, w)
  | some text =>
    let (fired, faults) := Fault.trigger text w.faults
    (fired, { w with log := w.log ++ [text], faults })

/-- The longest time that a sleep takes: thirty years of 365 days. -/
def longestSleep : Duration := .ofSeconds (30 * 365 * 86400)

/-- The time at which a sleep that starts now ends. -/
def wakeTime (w : World) (d : Duration) : Duration := w.clock + d.shorter longestSleep

/-- The world at a time, after a sleep that was a turn for others. -/
def wokenAt (w : World) (t : Duration) : World := { w with clock := t, patienceLeft := patience - 1 }

/-- Sleeps, and says whether others get their turn. -/
def wait (w : World) (d : Duration) : Bool × World :=
  if d = .zero ∧ w.patienceLeft ≠ 0 then (false, { w with patienceLeft := w.patienceLeft - 1 })
  else (true, w.wokenAt (w.wakeTime d))

/-- A call of the cluster, unless a fault stops it. -/
def askCluster {α : Type} (w : World) (c : Call) (f : Cluster → Except Failure α × Cluster) :
    Except Failure α × World :=
  match w.announce c with
  | (some fault, w) => (.error fault.failure, w)
  | (none, w) => ((f w.cluster).1, { w with cluster := (f w.cluster).2 })

/-- A call of the interface at a URL, unless a fault stops it. -/
def askApi {α : Type} (w : World) (c : Call) (url : String)
    (f : ApiServer → Except ApiError α × ApiServer) : Except ApiError α × World :=
  match w.announce c with
  | (some fault, w) => (.error fault.apiError, w)
  | (none, w) => ((f (w.api url)).1, w.setApi url (f (w.api url)).2)

/-- The URL of a client that is made, unless a fault stops it. -/
def openClient (w : World) (url : String) : Except Failure Unit × World :=
  match w.announce (.connect url) with
  | (some fault, w) => (.error fault.failure, w)
  | (none, w) => (.ok (), { w with requested := w.requested ++ [url] })

/-- Answers a call. -/
def answer : (c : Call) → World → c.Reply × World
  | .get a, w => w.askCluster (.get a) fun c => (.ok (c.object? a), c)
  | .create o, w => w.askCluster (.create o) (·.create o)
  | .apply o, w => w.askCluster (.apply o) (·.apply o)
  | .restart ns name, w => w.askCluster (.restart ns name) (·.restart ns name)
  | .fetch ns name, w => w.askCluster (.fetch ns name) fun c => (c.fetch ns name, c)
  | .record cp conditions, w => w.askCluster (.record cp conditions) (·.record cp conditions)
  | .connect url, w => w.openClient url
  | .status url, w => w.askApi (.status url) url (·.status url)
  | .signUp url request, w => w.askApi (.signUp url request) url (·.signUp url request)
  | .logIn url request, w => w.askApi (.logIn url request) url (·.logIn request)
  | .changePassword url token request, w =>
    w.askApi (.changePassword url token request) url (·.changePassword token request)
  | .putRouter url token router, w =>
    w.askApi (.putRouter url token router) url (·.putRouter token router)
  | .sleep d, w => w.wait d
  | .now, w => (w.now, w)
  | .drawKey, w => (⟨w.keysDrawn⟩, { w with keysDrawn := w.keysDrawn + 1 })
  | .forget key, w => ((), { w with retries := w.retries.forget key })

/-- Runs a program; the world answers. -/
def run {α : Type} (w : World) (p : Program α) : α × World := p.run answer w

end World

end EdgePlane.Simulation
