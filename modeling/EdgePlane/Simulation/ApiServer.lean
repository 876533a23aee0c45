import EdgePlane.Failure
import EdgePlane.Management.Model

/-!
# A management interface in memory

Users with their passwords, tokens, and the registered router. The interface can refuse connections for
a while, and answers for the status and for registrations can be broken.
-/

namespace EdgePlane.Simulation

open Management Text

/-- A management interface: its users, whom it has given tokens, its default router, and what is wrong with
it. -/
structure ApiServer where
  users : Dict String String := {}
  tokens : Dict String String := {}
  router : Option DefaultRouter := none
  /-- How many more questions for the status are refused; without end if there is no number. -/
  refusals : Option Nat := some 0
  statusBroken : Bool := false
  signUpBroken : Bool := false
  statusCalls : Nat := 0
  signUpCalls : Nat := 0
  logInCalls : Nat := 0
  deriving Inhabited

namespace ApiServer

/-- The error of an answer that is broken. -/
def serverError (url path : String) : ApiError := .status 500 (url ++ path ++ ": internal server error")

/-- The answer to a call under no valid token. -/
def invalidToken : ApiError := .status 401 "Authentication error: invalid token"

/-- The error of a registration that is there already. -/
def accountExists : ApiError :=
  .status 400 ("Registration failed: There is already an account associated with your email " ++
    "address. Please try logging in.")

/-- The answer to a wrong password. -/
def invalidCredentials (code : Nat) : ApiError := .status code "Invalid credentials"

/-- The interface with a user of a password. -/
def addUser (s : ApiServer) (email password : String) : ApiServer :=
  { s with users := s.users.insert email password }

/-- The answer for the status while connections are accepted. -/
def report (s : ApiServer) (url : String) : Except ApiError ControllerStatus :=
  if s.statusBroken then .error (serverError url "/status") else .ok ⟨"online", none, none⟩

/-- Answers a question for the status. -/
def status (s : ApiServer) (url : String) : Except ApiError ControllerStatus × ApiServer :=
  let s := { s with statusCalls := s.statusCalls + 1 }
  let refused : Except ApiError ControllerStatus :=
    .error (.refused (url ++ "/status: Connection refused"))
  match s.refusals with
  | none => (refused, s)
  | some 0 => (s.report url, s)
  | some (n + 1) => (refused, { s with refusals := some n })

/-- Answers a registration. -/
def signUp (s : ApiServer) (url : String) (request : SignUp) : Except ApiError Unit × ApiServer :=
  let s := { s with signUpCalls := s.signUpCalls + 1 }
  if s.signUpBroken then (.error (serverError url "/user/signup"), s)
  else if s.users.contains request.email then (.error accountExists, s)
  else (.ok (), s.addUser request.email request.password)

/-- Answers a login. -/
def logIn (s : ApiServer) (request : LogIn) : Except ApiError AccessToken × ApiServer :=
  let s := { s with logInCalls := s.logInCalls + 1 }
  if s.users.get? request.email = some request.password then
    let token := "token-" ++ decimal s.logInCalls
    (.ok ⟨token⟩, { s with tokens := s.tokens.insert token request.email })
  else (.error (invalidCredentials 401), s)

/-- Answers a change of password. -/
def changePassword (s : ApiServer) (token : String) (request : PasswordChange) :
    Except ApiError Unit × ApiServer :=
  match s.tokens.get? token with
  | none => (.error invalidToken, s)
  | some email =>
    if s.users.get? email = some request.oldPassword then
      (.ok (), s.addUser email request.newPassword)
    else (.error (invalidCredentials 400), s)

/-- Answers the choice of a default router. -/
def putRouter (s : ApiServer) (token : String) (router : DefaultRouter) :
    Except ApiError Unit × ApiServer :=
  match s.tokens.get? token with
  | none => (.error invalidToken, s)
  | some _ => (.ok (), { s with router := some router })

end ApiServer

end EdgePlane.Simulation
