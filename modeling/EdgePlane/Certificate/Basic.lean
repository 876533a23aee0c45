import EdgePlane.Net.Ip

/-!
# Certificates

A certificate is what it says: whom it names, who issued it, what it may be used for, whose key it
certifies and whose key signed it. Keys are told apart by numbers; a key that was never drawn before
has a number of its own.
-/

namespace EdgePlane

/-- A pair of keys. -/
structure KeyPair where
  number : Nat
  deriving Repr, DecidableEq, Inhabited

/-- What a certificate is valid for: an address or a host. -/
inductive AlternativeName
  | ip (address : Net.IpAddress)
  | dns (host : String)
  deriving Repr, DecidableEq

/-- What a certified key may be used for. -/
inductive KeyUsage
  | digitalSignature
  | keyEncipherment
  | keyCertSign
  | crlSign
  deriving Repr, DecidableEq

/-- In which role a certified key may be used. -/
inductive ExtendedKeyUsage
  | serverAuth
  | clientAuth
  deriving Repr, DecidableEq

/-- A certificate as the record of what it says. -/
structure Certificate where
  subject : String
  issuer : String
  isAuthority : Bool
  names : List AlternativeName
  keyUsage : List KeyUsage
  extendedKeyUsage : List ExtendedKeyUsage
  /-- The key that the certificate belongs to. -/
  key : KeyPair
  /-- The key that the certificate was signed with. -/
  signer : KeyPair
  deriving Repr, DecidableEq

/-- Whether the signature of a certificate verifies with the key of another. -/
def Certificate.isSignedBy (c authority : Certificate) : Bool := c.signer = authority.key

end EdgePlane
