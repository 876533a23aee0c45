import EdgePlane.Certificate.Pem
import EdgePlane.Failure
import EdgePlane.Kubernetes.Secret

/-!
# The certificate authority

An authority is a certificate together with a private key. It is kept in a secret, from which it is
loaded again, and issues certificates for the addresses of servers. How the entries of a secret are read is
up to a library; all that is taken for granted is that it reads what was written with it.
-/

namespace EdgePlane

open Kubernetes

/-- A certificate and a private key, which need not belong together. -/
structure KeyedCertificate where
  certificate : Certificate
  key : KeyPair
  deriving Repr, DecidableEq

/-- A reader of keys and certificates. A text that it refuses it has words for. -/
structure PemReader where
  readKey : SecretValue → Except String KeyPair
  readCertificate : SecretValue → Except String Certificate
  readKey_privateKey (k : KeyPair) : readKey (.privateKey k) = .ok k
  readCertificate_certificate (c : Certificate) : readCertificate (.certificate c) = .ok c

namespace PemReader

/-- The reader for keys of elliptic curves that have their public part beside them. -/
def standard : PemReader where
  readKey
    | .privateKey key => .ok key
    | .certificate _ => .error Pem.ReadError.key.message
    | .text text => (Pem.readKey text).mapError (·.message)
  readCertificate
    | .certificate certificate => .ok certificate
    | .privateKey _ => .error Pem.ReadError.certificate.message
    | .text text => (Pem.readCertificate text).mapError (·.message)
  readKey_privateKey _ := rfl
  readCertificate_certificate _ := rfl

end PemReader

namespace KeyedCertificate

/-- A new authority with a fresh key, which signs its own certificate. -/
def authority (commonName : String) (fresh : KeyPair) : KeyedCertificate where
  certificate :=
    { subject := commonName, issuer := commonName, isAuthority := true, names := []
      keyUsage := [.keyCertSign, .crlSign, .digitalSignature], extendedKeyUsage := []
      key := fresh, signer := fresh }
  key := fresh

/-- The name that a certificate for a subject is valid for: an address if it reads as one, and
otherwise a host, whose name has to be in ASCII. -/
def alternativeName (subject : String) : Except IssuerError AlternativeName :=
  if subject.isEmpty then .error (.invalidSubject subject "empty")
  else
    match Net.IpAddress.parse? subject with
    | some address => .ok (.ip address)
    | none =>
      if subject.toList.all (·.toNat < 128) then .ok (.dns subject)
      else .error (.invalidSubject subject ("Invalid IA5String: '" ++ subject ++ "'"))

/-- A certificate for a named server with a fresh key, signed by an authority. -/
def issue (ca : KeyedCertificate) (subject : String) (name : AlternativeName) (fresh : KeyPair) :
    KeyedCertificate where
  certificate :=
    { subject, issuer := ca.certificate.subject, isAuthority := false, names := [name]
      keyUsage := [.digitalSignature, .keyEncipherment]
      extendedKeyUsage := [.serverAuth, .clientAuth]
      key := fresh, signer := ca.key }
  key := fresh

/-- The type of a secret with a certificate. -/
def secretType : String := "kubernetes.io/tls"

/-- The secret with a certificate, its key and the certificate of the authority. -/
def secret (name namespaceName : String) (own : KeyedCertificate) (ca : Certificate) : Secret where
  metadata := .named namespaceName name
  type := some secretType
  data := some (Dict.ofList [(certificateKey, .certificate own.certificate),
    (privateKeyKey, .privateKey own.key), (authorityKey, .certificate ca)])

/-- The secret that an authority is kept in. -/
def authoritySecret (name namespaceName : String) (ca : KeyedCertificate) : Secret :=
  secret name namespaceName ca ca.certificate

/-- Loads an authority. The certificate and the key must be there and in their form; the key is looked
at first. -/
def ofSecret (pem : PemReader) (s : Secret) : Except IssuerError KeyedCertificate := do
  let name := s.metadata.name.getD ""
  let certificate ← require s name certificateKey
  let key ← require s name privateKeyKey
  let key ← (pem.readKey key).mapError fun e => .malformed ("secret " ++ name ++ " key: " ++ e)
  let certificate ← (pem.readCertificate certificate).mapError fun e =>
    .malformed ("secret " ++ name ++ " certificate: " ++ e)
  return ⟨certificate, key⟩
where
  /-- The entry of a key, without which there is no authority. -/
  require (s : Secret) (name key : String) : Except IssuerError SecretValue :=
    match s.value? key with
    | some value => .ok value
    | none => .error (.malformed ("secret " ++ name ++ " has no " ++ key))

end KeyedCertificate

end EdgePlane
