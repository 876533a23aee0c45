import EdgePlane.Program
import EdgePlane.Settings

/-!
# Bootstrapping the management interface

A controller that was just deployed has to serve, its user has to exist, and a router has to be
registered before edge nodes can use it.
-/

namespace EdgePlane

open Management Text

/-- A login at the management interface. It lasts for one pass. -/
structure Session where
  baseUrl : String
  token : String
  deriving Repr, DecidableEq

/-- The session as it is shown: the token stays hidden. -/
def Session.debug (s : Session) : String :=
  "Session \x7b base_url: " ++ quoted s.baseUrl ++ ", token: " ++ quoted Credential.hidden ++ " \x7d"

namespace Bootstrap

/-- The failure when nothing served in all attempts. -/
def unavailable (url : String) (attempts : Nat) : Failure :=
  .timeout (url ++ " did not become available after " ++ decimal attempts ++ " attempts")

/-- Asks for the status up to `remaining` times, and sleeps between refusals. -/
def poll (url : String) (limit : RetryLimit) : Nat → Attempt Unit
  | 0 => throw (unavailable url limit.attempts)
  | remaining + 1 => do
    match ← Attempt.exactly (.perform (.status url)) with
    | .ok _ => return ()
    | .error e =>
      if e.isRefused then
        if remaining ≠ 0 then Attempt.sleep limit.interval
        poll url limit remaining
      else throw (.api e)

/-- Waits until the interface serves. Only refused connections are tried again. -/
def waitUntilAvailable (url : String) (limit : RetryLimit) : Attempt Unit :=
  poll url limit limit.attempts

/-- Logs in; the session lasts for later calls under its token. -/
def logIn (url email password : String) : Attempt Session := do
  let answer ← Attempt.viaApi (.perform (.logIn url ⟨email, password⟩))
  return ⟨url, answer.accessToken⟩

/-- Registers a user unless there is one, and logs in. -/
def ensureUser (url : String) (user : ControlPlane.User) : Attempt Session := do
  let password := user.password.decode
  match ← Attempt.exactly (.perform (.signUp url ⟨user.name, user.surname, user.email, password⟩)) with
  | .ok _ => logIn url user.email password
  | .error e => if e.isAccountExists then logIn url user.email password else throw (.api e)

/-- Changes the password of a user who is logged in, unless the new one is empty or the same. -/
def changePassword (url : String) (session : Session) (old new : String) : Attempt Unit :=
  if !new.isEmpty && new ≠ old then
    Attempt.viaApi (.perform (.changePassword url session.token ⟨old, new⟩))
  else return ()

/-- Moves a user from one password to another, and logs in with the new one. -/
def rotatePassword (url email old new : String) : Attempt Session := do
  let session ← logIn url email old
  changePassword url session old new
  logIn url email new

/-- Registers the router that edge nodes connect to. -/
def registerRouter (url : String) (session : Session) (router : DefaultRouter) : Attempt Unit :=
  Attempt.viaApi (.perform (.putRouter url session.token router))

end Bootstrap

end EdgePlane
