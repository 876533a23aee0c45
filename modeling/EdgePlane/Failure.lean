import EdgePlane.Text.Decimal
import EdgePlane.Text.Search

/-!
# Failures

The causes for which a call or a pass can fail, with their wording. Where a library words a cause, its text
is part of the error.
-/

namespace EdgePlane

open Text

/-- Why a call of the management interface failed. -/
inductive ApiError
  /-- The request or the answer was lost, perhaps before there was a connection. -/
  | transport (connecting : Bool) (detail : String)
  /-- Nothing accepts connections at the address. -/
  | refused (detail : String)
  /-- The answer has a status other than success. -/
  | status (code : Nat) (message : String)
  /-- The answer does not have the expected form. -/
  | unreadable (detail : String)
  /-- The request cannot be made. -/
  | invalidRequest (detail : String)
  deriving Repr, DecidableEq

namespace ApiError

/-- The error as it is printed. -/
def message : ApiError → String
  | .transport _ detail => "HTTP error: " ++ detail
  | .refused detail => "Connection refused: " ++ detail
  | .status code message => "ECN API error (" ++ decimal code ++ "): " ++ message
  | .unreadable detail => "Serialization error: " ++ detail
  | .invalidRequest detail => "Invalid request: " ++ detail

/-- Whether nothing was serving yet. -/
def isRefused : ApiError → Bool
  | .refused _ => true
  | .transport connecting _ => connecting
  | _ => false

/-- Whether a user could not be registered because there is one already. -/
def isAccountExists (e : ApiError) : Bool := contains e.message "already an account associated"

/-- Whether a password was not accepted. -/
def isInvalidCredentials (e : ApiError) : Bool := contains (lower e.message) "invalid credentials"

end ApiError

/-- Why a certificate could not be issued. -/
inductive IssuerError
  /-- A pair of keys could not be drawn. -/
  | keyGeneration (detail : String)
  /-- A certificate could not be signed. -/
  | signing (detail : String)
  /-- A certificate cannot be issued for the name. -/
  | invalidSubject (subject reason : String)
  /-- What is stored of an authority cannot be read. -/
  | malformed (detail : String)
  deriving Repr, DecidableEq

/-- The error as it is printed. -/
def IssuerError.message : IssuerError → String
  | .keyGeneration detail => "key generation failed: " ++ detail
  | .signing detail => "certificate signing failed: " ++ detail
  | .invalidSubject subject reason => "invalid certificate subject '" ++ subject ++ "': " ++ reason
  | .malformed detail => "malformed CA material: " ++ detail

/-- Why a call of the cluster's interface failed, and the text with which the client says so. -/
inductive ClusterError
  /-- The cluster refused the call. -/
  | status (code : Nat) (reason message text : String)
  /-- The answer is not an object of the expected kind. -/
  | unreadable (text : String)
  /-- The request could not be made or answered. -/
  | transport (text : String)
  deriving Repr, DecidableEq

/-- The error as it is printed. -/
def ClusterError.message : ClusterError → String
  | .status _ _ _ text => text
  | .unreadable text => text
  | .transport text => text

/-- Why a pass failed. -/
inductive Failure
  | cluster (e : ClusterError)
  | api (e : ApiError)
  | issuer (e : IssuerError)
  /-- The operator or an object lacks something that it needs. -/
  | invalidConfig (detail : String)
  /-- The control plane cannot be had as it is declared. -/
  | validation (detail : String)
  /-- What was waited for did not come about. -/
  | timeout (detail : String)
  | reconciliation (detail : String)
  /-- The failures of several components, one on a line. -/
  | aggregated (text : String)
  /-- The control planes cannot be watched. -/
  | watch (detail : String)
  deriving Repr, DecidableEq

namespace Failure

/-- The failure as it is printed. -/
def message : Failure → String
  | .cluster e => "Kubernetes error: " ++ e.message
  | .api e => "ECN API error: " ++ e.message
  | .issuer e => "Certificate error: " ++ e.message
  | .invalidConfig detail => "Invalid configuration: " ++ detail
  | .validation detail => "Invalid ControlPlane: " ++ detail
  | .timeout detail => "Timed out: " ++ detail
  | .reconciliation detail => "Reconciliation failed: " ++ detail
  | .aggregated text => text
  | .watch detail => "Resource watch failed: " ++ detail

/-- Whether the management interface did not accept the operator's password. -/
def isInvalidCredentials : Failure → Bool
  | .api e => e.isInvalidCredentials
  | _ => false

end Failure

end EdgePlane
