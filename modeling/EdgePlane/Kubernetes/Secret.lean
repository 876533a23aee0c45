import EdgePlane.Certificate.Basic
import EdgePlane.Kubernetes.Metadata
import EdgePlane.Kubernetes.Shape.Rbac
import EdgePlane.Text.Base64

/-!
# Secrets

The entries of a secret are bytes, certificates or private keys. A text given under `stringData` is
kept beside them; where both hold an entry, the one under `data` counts.

Bytes are written in Base64. A certificate is written as a record of what it says, and a private key by
whether it belongs to the certificate beside it.
-/

namespace EdgePlane.Kubernetes

open Text

/-- The key of a certificate among the entries. -/
def certificateKey : String := "tls.crt"

/-- The key of a private key. -/
def privateKeyKey : String := "tls.key"

/-- The key of the certificate of an authority. -/
def authorityKey : String := "ca.crt"

/-- An entry under `data`. -/
inductive SecretData
  | bytes (bs : List UInt8)
  | certificate (c : Certificate)
  | privateKey (k : KeyPair)
  deriving Repr, DecidableEq

/-- What an entry says when it is read. -/
inductive SecretValue
  | text (s : String)
  | certificate (c : Certificate)
  | privateKey (k : KeyPair)
  deriving Repr, DecidableEq

namespace SecretData

/-- The entry with the bytes of a text. -/
def ofText (s : String) : SecretData := .bytes s.toUTF8.data.toList

/-- The value of an entry, if its bytes are a text. -/
def value? : SecretData → Option SecretValue
  | .bytes bs => (Base64.textOfBytes? bs).map .text
  | .certificate c => some (.certificate c)
  | .privateKey k => some (.privateKey k)

/-- The name of a use. -/
def usageName : KeyUsage → String
  | .digitalSignature => "digitalSignature"
  | .keyEncipherment => "keyEncipherment"
  | .keyCertSign => "keyCertSign"
  | .crlSign => "cRLSign"

/-- The name of a role. -/
def roleName : ExtendedKeyUsage → String
  | .serverAuth => "serverAuth"
  | .clientAuth => "clientAuth"

/-- A name that a certificate is valid for, as a record. -/
def nameJson : AlternativeName → Json
  | .ip address => .obj [("ip", .str address.render)]
  | .dns host => .obj [("dns", .str host)]

/-- A certificate as a record, beside the certificate of an authority if there is one. -/
def certificateJson (authority : Option Certificate) (c : Certificate) : Json :=
  .obj [("subject_cn", .str c.subject), ("issuer_cn", .str c.issuer), ("is_ca", .bool c.isAuthority),
    ("san", .arr (c.names.map nameJson)),
    ("key_usage", .arr (([.digitalSignature, .keyEncipherment, .keyCertSign, .crlSign].filter
      c.keyUsage.contains).map fun u => .str (usageName u))),
    ("extended_key_usage", .arr (([.serverAuth, .clientAuth].filter
      c.extendedKeyUsage.contains).map fun u => .str (roleName u))),
    ("signed_by_ca", .bool (authority.any c.isSignedBy))]

/-- The certificate that a map of entries has under a key. -/
def certificateAt? (data : Dict String SecretData) (key : String) : Option Certificate :=
  match data.get? key with
  | some (.certificate c) => some c
  | _ => none

/-- An entry as it is written beside the others. -/
def encode (data : Dict String SecretData) : SecretData → Json
  | .bytes bs => .str (String.ofList (Base64.encode bs))
  | .certificate c => certificateJson (certificateAt? data authorityKey) c
  | .privateKey k =>
    .obj [("matches_cert", .bool ((certificateAt? data certificateKey).any (·.key = k)))]

/-- An entry in Base64. A null has no bytes. -/
def decode : Json → Option SecretData
  | .null => some (.bytes [])
  | .str s => (Base64.decode? s.toList).map .bytes
  | _ => none

/-- The entries under their keys. -/
def codec : Codec (Dict String SecretData) where
  encode data := .obj (data.entries.map fun e => (e.1, encode data e.2))
  decode := (Codec.dict ⟨fun _ => .null, decode, []⟩).decode
  schema := []

end SecretData

/-- A secret. -/
structure Secret where
  metadata : Metadata := {}
  type : Option String := none
  data : Option (Dict String SecretData) := none
  stringData : Option (Dict String String) := none
  other : List (String × Json) := []
  deriving Repr, Inhabited

namespace Secret

/-- The form of a secret. -/
def codec : Codec Secret :=
  typed "v1" "Secret" <| (Fields.of Secret.mk
    |>.and (metadataField metadata)
    |>.and (.optional "type" type .text)
    |>.and (.optional "data" data SecretData.codec)
    |>.and (.optional "stringData" stringData (.dict .text))
    |>.others other).manifest Secret.shape

/-- The entry under `data` for a key. -/
def data? (s : Secret) (key : String) : Option SecretData := s.data.bind (·.get? key)

/-- The text under `stringData` for a key. -/
def stringData? (s : Secret) (key : String) : Option String := s.stringData.bind (·.get? key)

/-- The value for a key: of the entry under `data` if there is one, even if it has no value, and else
the text under `stringData`. -/
def value? (s : Secret) (key : String) : Option SecretValue :=
  match s.data? key with
  | some entry => entry.value?
  | none => (s.stringData? key).map .text

/-- The text for a key. -/
def text? (s : Secret) (key : String) : Option String :=
  match s.value? key with
  | some (.text t) => some t
  | _ => none

/-- Whether storing the texts of `desired` would change what `existing` says. -/
def isChangedBy (existing desired : Secret) : Bool :=
  ((desired.stringData.map (·.entries)).getD []).any fun e => existing.value? e.1 ≠ some (.text e.2)

end Secret

end EdgePlane.Kubernetes
