import EdgePlane.Json.Codec

/-!
# Messages of the management interface

The bodies of the requests to the controller and of its answers.
-/

namespace EdgePlane.Management

/-- What the controller reports of itself. -/
structure ControllerStatus where
  status : String
  timestamp : Option Int64
  uptimeSec : Option Number.Binary64
  deriving Repr, DecidableEq

/-- The form of a report. -/
def ControllerStatus.codec : Codec ControllerStatus :=
  (Fields.of ControllerStatus.mk
    |>.and (.required "status" status .text)
    |>.and (.optional "timestamp" timestamp .int64)
    |>.and (.optional "uptimeSec" uptimeSec .binary64)).record

/-- The wish to register a user. -/
structure SignUp where
  firstName : String
  lastName : String
  email : String
  password : String
  deriving Repr, DecidableEq

/-- The form of a registration. -/
def SignUp.codec : Codec SignUp :=
  (Fields.of SignUp.mk
    |>.and (.required "firstName" firstName .text)
    |>.and (.required "lastName" lastName .text)
    |>.and (.required "email" email .text)
    |>.and (.required "password" password .text)).record

/-- The wish to log in. -/
structure LogIn where
  email : String
  password : String
  deriving Repr, DecidableEq

/-- The form of a login. -/
def LogIn.codec : Codec LogIn :=
  (Fields.of LogIn.mk
    |>.and (.required "email" email .text)
    |>.and (.required "password" password .text)).record

/-- The token that a login is answered with. -/
structure AccessToken where
  accessToken : String
  deriving Repr, DecidableEq

/-- The form of the answer to a login. -/
def AccessToken.codec : Codec AccessToken :=
  (Fields.of AccessToken.mk |>.and (.required "accessToken" accessToken .text)).record

/-- The wish to change a password. -/
structure PasswordChange where
  oldPassword : String
  newPassword : String
  deriving Repr, DecidableEq

/-- The form of a change of password. -/
def PasswordChange.codec : Codec PasswordChange :=
  (Fields.of PasswordChange.mk
    |>.and (.required "oldPassword" oldPassword .text)
    |>.and (.required "newPassword" newPassword .text)).record

/-- The router that edge nodes connect to. -/
structure DefaultRouter where
  host : String
  messagingPort : Option Int32
  edgeRouterPort : Option Int32
  interRouterPort : Option Int32
  deriving Repr, DecidableEq

/-- The form of a default router. -/
def DefaultRouter.codec : Codec DefaultRouter :=
  (Fields.of DefaultRouter.mk
    |>.and (.required "host" host .text)
    |>.and (.optional "messagingPort" messagingPort .int32)
    |>.and (.optional "edgeRouterPort" edgeRouterPort .int32)
    |>.and (.optional "interRouterPort" interRouterPort .int32)).record

end EdgePlane.Management
