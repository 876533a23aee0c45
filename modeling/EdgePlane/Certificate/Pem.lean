import EdgePlane.Certificate.Basic
import EdgePlane.Certificate.Der
import EdgePlane.Text.Base64
import EdgePlane.Text.Blank
import EdgePlane.Text.Search

/-!
# Certificates and keys as texts

A certificate or a key is kept as a text: its bytes in Base64 between two marks with the same label. The
bytes are those of an X.509 certificate, or of a private key of an elliptic curve in PKCS #8, which has the
public key beside it.

A key is known by the number of its public point, so a certificate and a private key belong together just
if they have the same number. Of a name the common name is kept. The signature of a certificate is not
checked: one that names itself as its issuer counts as signed with its own key, and any other as signed with
a key that is not known.
-/

namespace EdgePlane.Pem

open Der Text

/-- Why a text is not read. -/
inductive ReadError
  | framing
  | labels (first last : String)
  | body
  | key
  | certificate
  deriving Repr, DecidableEq

/-- The error as it is printed. -/
def ReadError.message : ReadError → String
  | .framing => "PEM error: malformedframing"
  | .labels first last =>
    "PEM error: mismatching BEGIN (\"" ++ first ++ "\") and END (\"" ++ last ++ "\") tags"
  | .body => "PEM error: invalid data"
  | .key => "Could not parse key pair"
  | .certificate => "Could not parse certificate"

/-- The labels of the first two marks of a text, and what is between the marks. -/
def frame? (text : List Char) : Option (String × List Char × String) := do
  let (_, text) ← splitAround? "-----BEGIN ".toList text
  let (first, text) ← splitAround? "-----".toList text
  let (body, text) ← splitAround? "-----END ".toList text
  let (last, _) ← splitAround? "-----".toList text
  return (String.ofList first, body, String.ofList last)

/-- The bytes that a text holds. -/
def bytes (text : String) : Except ReadError (List UInt8) :=
  match frame? text.toList with
  | none => .error .framing
  | some (first, body, last) =>
    if first = last then
      match Base64.decode? (body.filter (!isBlank ·)) with
      | some bytes => .ok bytes
      | none => .error .body
    else .error (.labels first last)

/-- The key whose public point is a string of bits. -/
def keyOfPoint? (e : Element) : Option KeyPair := e.bits?.map fun point => ⟨number point⟩

/-- The tag of the public key beside a private one. -/
def publicKeyTag : UInt8 := 0xA1

/-- The identifier of the keys of elliptic curves. -/
def curveKeyId : List UInt8 := [0x2A, 0x86, 0x48, 0xCE, 0x3D, 0x02, 0x01]

/-- The identifiers of the curves of 256 and 384 bits. -/
def curveIds : List (List UInt8) :=
  [[0x2A, 0x86, 0x48, 0xCE, 0x3D, 0x03, 0x01, 0x07], [0x2B, 0x81, 0x04, 0x00, 0x22]]

/-- Whether an element names the algorithm of a key on one of these curves. -/
def isCurveKey (algorithm : Element) : Bool :=
  match algorithm.parts? sequenceTag with
  | some [kind, curve] => kind.content = curveKeyId && curve.content ∈ curveIds
  | _ => false

/-- The key in a document of PKCS #8: the version, the algorithm, and in a string of bytes the private key with
the public one beside it. -/
def privateKey? (bytes : List UInt8) : Option KeyPair := do
  let [outer] ← elements? bytes | none
  let version :: algorithm :: inner :: _ ← outer.parts? sequenceTag | none
  if version ≠ ⟨integerTag, [0]⟩ ∨ !isCurveKey algorithm ∨ inner.tag ≠ octetStringTag then none
  let [pair] ← elements? inner.content | none
  let parts ← pair.parts? sequenceTag
  let [point] ← (← parts.find? (·.tag = publicKeyTag)).parts? publicKeyTag | none
  keyOfPoint? point

/-- The kind of attribute that a common name is. -/
def commonNameId : List UInt8 := [0x55, 0x04, 0x03]

/-- The values of a kind of attribute in a name. -/
def attributes? (kind : List UInt8) (name : Element) : Option (List (List UInt8)) := do
  let sets ← (← name.parts? sequenceTag).mapM (·.parts? setTag)
  let pairs ← sets.flatten.mapM (·.parts? sequenceTag)
  return pairs.filterMap fun
    | [id, value] => if id.content = kind then some value.content else none
    | _ => none

/-- The common name in a name, which may lack one. -/
def commonName? (name : Element) : Option String := do
  match ← attributes? commonNameId name with
  | [] => some ""
  | value :: _ => Base64.textOfBytes? value

/-- The kind of extension that tells an authority. -/
def authorityId : List UInt8 := [0x55, 0x1D, 0x13]

/-- The kind of extension with the uses of the key. -/
def keyUsageId : List UInt8 := [0x55, 0x1D, 0x0F]

/-- The kind of extension with the roles of the key. -/
def extendedKeyUsageId : List UInt8 := [0x55, 0x1D, 0x25]

/-- The kind of extension with the names that a certificate is valid for. -/
def alternativeNamesId : List UInt8 := [0x55, 0x1D, 0x11]

/-- The tag of the extensions of a certificate. -/
def extensionsTag : UInt8 := 0xA3

/-- The extensions of a certificate, each with its kind and its value. -/
def extensions? (optional : List Element) : Option (List (List UInt8 × Element)) :=
  match optional.find? (·.tag = extensionsTag) with
  | none => some []
  | some wrapped => do
    let [row] ← wrapped.parts? extensionsTag | none
    (← row.parts? sequenceTag).mapM fun extension => do
      let id :: rest ← extension.parts? sequenceTag | none
      let [value] ← elements? (← rest.getLast?).content | none
      return (id.content, value)

/-- Whether an extension says that the certificate is one of an authority. -/
def isAuthority? (value : Element) : Option Bool := do
  match ← value.parts? sequenceTag with
  | ⟨0x01, [flag]⟩ :: _ => some (flag ≠ 0)
  | _ => some false

/-- The uses that a string of bits allows. -/
def keyUsage? (value : Element) : Option (List KeyUsage) := do
  let first := ((← value.bits?).head?.getD 0).toNat
  return [(.digitalSignature, 128), (.keyEncipherment, 32), (.keyCertSign, 4), (.crlSign, 2)].filterMap
    fun use => if first / use.2 % 2 = 1 then some use.1 else none

/-- The kinds of roles begin alike. -/
def roleId (last : UInt8) : List UInt8 := [0x2B, 0x06, 0x01, 0x05, 0x05, 0x07, 0x03, last]

/-- The roles that a row of identifiers allows; others than these two are passed over. -/
def extendedKeyUsage? (value : Element) : Option (List ExtendedKeyUsage) := do
  return (← value.parts? sequenceTag).filterMap fun role =>
    if role.content = roleId 1 then some .serverAuth
    else if role.content = roleId 2 then some .clientAuth
    else none

/-- The address that four or sixteen bytes stand for. -/
def address? : List UInt8 → Option Net.IpAddress
  | [a, b, c, d] => some (.v4 a.toNat b.toNat c.toNat d.toNat)
  | [a, b, c, d, e, f, g, h, i, j, k, l, m, n, o, p] =>
    some (.v6 [number [a, b], number [c, d], number [e, f], number [g, h], number [i, j], number [k, l],
      number [m, n], number [o, p]])
  | _ => none

/-- The hosts and addresses that a certificate is valid for. -/
def alternativeNames? (value : Element) : Option (List AlternativeName) := do
  (← value.parts? sequenceTag).filterMapM fun name =>
    if name.tag = 0x82 then (Base64.textOfBytes? name.content).map fun host => some (.dns host)
    else if name.tag = 0x87 then (address? name.content).map fun address => some (.ip address)
    else some none

/-- What an extension says, or what is so without it. -/
def fromExtension? {α : Type} (extensions : List (List UInt8 × Element)) (kind : List UInt8)
    (read : Element → Option α) (absent : α) : Option α :=
  match extensions.find? (·.1 = kind) with
  | none => some absent
  | some (_, value) => read value

/-- The tag of a version. -/
def versionTag : UInt8 := 0xA0

/-- The certificate in a document of X.509: who issued it for whom, whose key it certifies, and what its
extensions say. -/
def certificate? (bytes : List UInt8) : Option Certificate := do
  let (outer, _) ← element? bytes
  let [signed, _algorithm, signature] ← outer.parts? sequenceTag | none
  let fields := (← signed.parts? sequenceTag).dropWhile (·.tag = versionTag)
  let _serial :: _algorithm :: issuer :: _validity :: subject :: keyInfo :: optional ← some fields | none
  let [_algorithm, point] ← keyInfo.parts? sequenceTag | none
  let key ← keyOfPoint? point
  let subject ← commonName? subject
  let issuer ← commonName? issuer
  let extensions ← extensions? optional
  let signature ← signature.bits?
  return {
    subject, issuer, key
    isAuthority := ← fromExtension? extensions authorityId isAuthority? false
    names := ← fromExtension? extensions alternativeNamesId alternativeNames? []
    keyUsage := ← fromExtension? extensions keyUsageId keyUsage? []
    extendedKeyUsage := ← fromExtension? extensions extendedKeyUsageId extendedKeyUsage? []
    signer := if issuer = subject then key else ⟨number signature⟩ }

/-- The private key that a text holds. -/
def readKey (text : String) : Except ReadError KeyPair := do
  match privateKey? (← bytes text) with
  | some key => return key
  | none => throw .key

/-- The certificate that a text holds. -/
def readCertificate (text : String) : Except ReadError Certificate := do
  match certificate? (← bytes text) with
  | some certificate => return certificate
  | none => throw .certificate

end EdgePlane.Pem
