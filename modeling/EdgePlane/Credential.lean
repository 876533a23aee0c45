import EdgePlane.Json.Codec
import EdgePlane.Text.Base64
import EdgePlane.Text.Quoted

/-!
# Credentials

A secret text that is kept in its Base64 form. Showing a credential never shows what it holds.
-/

namespace EdgePlane

open Text

/-- A secret, by its encoded form. -/
structure Credential where
  encoded : String
  deriving Repr, DecidableEq, Inhabited

namespace Credential

/-- The credential of a plain text. -/
def ofPlain (plain : String) : Credential := ⟨Base64.encodeText plain⟩

/-- The plain text; an encoded form that encodes no text stands for itself. -/
def decode (c : Credential) : String := (Base64.decodeText? c.encoded).getD c.encoded

/-- Whether no password is given. -/
def isEmpty (c : Credential) : Bool := c.encoded.isEmpty

/-- What is shown in place of a secret. -/
def hidden : String := "<redacted>"

/-- The credential as it is shown to users. -/
def shown (_ : Credential) : String := hidden

/-- The credential as it is shown inside other values. -/
def debug (_ : Credential) : String := "Credential(" ++ quoted hidden ++ ")"

/-- A credential is written as the text that encodes it. -/
def codec : Codec Credential := Codec.text.refine (fun s => some ⟨s⟩) encoded

end Credential

end EdgePlane
