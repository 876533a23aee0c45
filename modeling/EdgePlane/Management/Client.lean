import EdgePlane.Failure
import EdgePlane.Json.Parser
import EdgePlane.Management.Model
import EdgePlane.Net.Http
import EdgePlane.Net.Target
import EdgePlane.Net.Url

/-!
# The client of the management interface

Each call is one request; what comes back is either the expected message or an error. An error of the
server is worded by the `message` of its body, if that has one, and else by the body itself; an error of the
client has the words of its libraries.
-/

namespace EdgePlane.Management

open Net Text

/-- A client of the interface under a URL. -/
structure Client where
  baseUrl : String
  deriving Repr, DecidableEq

namespace Client

/-- A client for a URL, which has to be a web address. -/
def new (url : String) : Except ApiError Client :=
  match Net.baseUrl? url with
  | some baseUrl => .ok ⟨baseUrl⟩
  | none => .error (.invalidRequest ("base URL must be http(s): " ++ url))

/-- A client for the interface at a host and a port. -/
def forHost (host : String) (port : Int32) : Except ApiError Client := new (apiBaseUrl host port)

/-- Whether a text can be sent as the value of a header. -/
def isHeaderValue (s : String) : Bool := s.toList.all fun c => c = '\t' || (0x20 ≤ c.toNat && c.toNat ≠ 0x7F)

/-- Whether a character does not belong to the value of a header where it stands at an end of it. -/
def isPadding (c : Char) : Bool := c = ' ' || c = '\t'

/-- The value of a header as it arrives. -/
def headerValue (s : String) : String :=
  String.ofList ((s.toList.dropWhile isPadding).reverse.dropWhile isPadding).reverse

/-- The error of a request that cannot be made because of a part of it. -/
def unsent (wording : Wording) (part : String) : ApiError := .transport false (wording.unsent part)

variable (wording : Wording)

/-- What is asked for under the base URL, of which `base` follows the host. -/
def target (base path : String) : Except ApiError String :=
  match Net.target? (base ++ path) with
  | some target => .ok target
  | none => .error (unsent wording (base ++ path))

/-- A request with a body. -/
def bodyRequest (method base path : String) (authorization : Option String) (body : Json) :
    Except ApiError Request := do
  let path ← target wording base path
  return { method, path, authorization, contentType := some jsonType, body := some body }

/-- The request for the status. -/
def statusRequest (base : String) : Except ApiError Request := do
  return { method := "GET", path := ← target wording base "/status", accept := jsonType }

/-- The request for a new account. -/
def signUpRequest (base : String) (m : SignUp) : Except ApiError Request :=
  bodyRequest wording "POST" base "/user/signup" none (SignUp.codec.encode m)

/-- The request for a token. -/
def logInRequest (base : String) (m : LogIn) : Except ApiError Request :=
  bodyRequest wording "POST" base "/user/login" none (LogIn.codec.encode m)

/-- A token as the value of a header. -/
def authorization (token : String) : Except ApiError String :=
  if isHeaderValue token then .ok (headerValue token) else .error (unsent wording token)

/-- The request for another password, under a token. -/
def changePasswordRequest (base token : String) (m : PasswordChange) : Except ApiError Request := do
  bodyRequest wording "PATCH" base "/user/password" (some (← authorization wording token))
    (PasswordChange.codec.encode m)

/-- The request for another default router, under a token. -/
def putRouterRequest (base token : String) (m : DefaultRouter) : Except ApiError Request := do
  bodyRequest wording "PUT" base "/router" (some (← authorization wording token)) (DefaultRouter.codec.encode m)

/-- The `message` of a body that is an object with a text of that name. -/
def bodyMessage? (body : String) : Option String := do
  let members ← (← Json.parse? body).members?
  (← Json.lookup "message" (Json.lastValues members)).text?

/-- An answer that is a success, or the server's error. -/
def check (a : Answer) : Except ApiError Answer :=
  if a.isSuccess then .ok a else .error (.status a.status ((bodyMessage? a.body).getD a.body))

/-- The message in a successful answer. -/
def read {α : Type} (codec : Codec α) (a : Answer) : Except ApiError α := do
  let a ← check a
  match (Json.read? a.body).bind codec.decode with
  | some m => return m
  | none => throw (.unreadable (wording.unread a.body))

/-- A successful answer whose body does not matter. -/
def acknowledge (a : Answer) : Except ApiError Unit := do
  let _ ← check a

/-- Asks for the status. -/
def status (base : String) : Exchange ApiError ControllerStatus :=
  ⟨statusRequest wording base, read wording ControllerStatus.codec⟩

/-- Creates an account. -/
def signUp (base : String) (m : SignUp) : Exchange ApiError Unit :=
  ⟨signUpRequest wording base m, acknowledge⟩

/-- Asks for a token. -/
def logIn (base : String) (m : LogIn) : Exchange ApiError AccessToken :=
  ⟨logInRequest wording base m, read wording AccessToken.codec⟩

/-- Changes the password of the account that a token is for. -/
def changePassword (base token : String) (m : PasswordChange) : Exchange ApiError Unit :=
  ⟨changePasswordRequest wording base token m, acknowledge⟩

/-- Makes a router the default one. -/
def putRouter (base token : String) (m : DefaultRouter) : Exchange ApiError Unit :=
  ⟨putRouterRequest wording base token m, acknowledge⟩

end Client

end EdgePlane.Management
