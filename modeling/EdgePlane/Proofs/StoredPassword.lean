import EdgePlane.Credential
import EdgePlane.Proofs.Keeping

/-!
# Credentials and what they encode

A credential decodes to the text that it encodes if there is one, and to itself otherwise. So a password that
was stored in a secret is the same password when it is read back.
-/

namespace EdgePlane

open Kubernetes Text

namespace Credential

variable {plain s : String}

theorem decode_of_encoded (h : (ofPlain plain).encoded = s) : (mk s).decode = plain := by
  rw [decode, Base64.decodeText?_eq_some_iff.2 h]
  rfl

theorem decode_of_foreign (h : ∀ plain, (ofPlain plain).encoded ≠ s) : (mk s).decode = s := by
  have unread : Base64.decodeText? s = none :=
    Option.eq_none_iff_forall_ne_some.2 fun plain read => h plain (Base64.decodeText?_eq_some_iff.1 read)
  rw [decode, unread]
  rfl

/-- A text encodes no other just if it does not have the canonical form or the bytes that it encodes are no
text. -/
theorem foreign_iff : (∀ plain, (ofPlain plain).encoded ≠ s) ↔ ¬ Base64.IsCanonical s.toList ∨
    ∃ bs, Base64.encode bs = s.toList ∧ ∀ text : String, text.toUTF8.data.toList ≠ bs := by
  rw [← Base64.decodeText?_eq_none_iff, Option.eq_none_iff_forall_ne_some]
  exact forall_congr' fun plain => not_congr Base64.decodeText?_eq_some_iff.symm

/-- However a store keeps the credentials of a user, the password is read in its encoded form. -/
theorem text?_keep_credentials (k : Keeping) (old : Option Object) (ns email : String)
    (password : Credential) : ∃ kept : Secret,
      k.keep old (.secret (PortManager.credentialsSecret ns email password)) = .secret kept ∧
        kept.text? PortManager.passwordKey = some password.encoded := by
  obtain ⟨kept, stored, texts⟩ := k.value?_keep old
    (s := PortManager.credentialsSecret ns email password) rfl
  have read := texts PortManager.passwordKey password.encoded rfl
  exact ⟨kept, stored, by rw [Secret.text?, read]⟩

/-- A credential that was made of a text decodes to the text. Any other text, taken for a credential, decodes
to the one text that it encodes, or to itself if it encodes none. It encodes none if it does not have the
canonical form, or if the bytes that it encodes are no text. A password that was stored is read back as the
password that it was. -/
theorem decode_exact :
    (∀ plain, (ofPlain plain).decode = plain) ∧
    (∀ s, (∃ plain, (ofPlain plain).encoded = s ∧ (∀ other, (ofPlain other).encoded = s → other = plain) ∧
        (mk s).decode = plain) ∨
      ((∀ plain, (ofPlain plain).encoded ≠ s) ∧ (mk s).decode = s)) ∧
    (∀ s, (∀ plain, (ofPlain plain).encoded ≠ s) ↔ ¬ Base64.IsCanonical s.toList ∨
      ∃ bs, Base64.encode bs = s.toList ∧ ∀ text : String, text.toUTF8.data.toList ≠ bs) ∧
    ∀ (k : Keeping) (old : Option Object) (ns email : String) (password : Credential),
      ∃ (kept : Secret) (encoded : String),
        k.keep old (.secret (PortManager.credentialsSecret ns email password)) = .secret kept ∧
        kept.text? PortManager.passwordKey = some encoded ∧ (mk encoded).decode = password.decode := by
  refine ⟨fun plain => decode_of_encoded rfl, fun s => ?_, fun s => foreign_iff,
    fun k old ns email password => ?_⟩
  · by_cases encodes : ∃ plain, (ofPlain plain).encoded = s
    · obtain ⟨plain, encoded⟩ := encodes
      have read := decode_of_encoded encoded
      exact .inl ⟨plain, encoded, fun other same => (decode_of_encoded same).symm.trans read, read⟩
    · have foreign : ∀ plain, (ofPlain plain).encoded ≠ s := not_exists.1 encodes
      exact .inr ⟨foreign, decode_of_foreign foreign⟩
  · obtain ⟨kept, stored, read⟩ := text?_keep_credentials k old ns email password
    exact ⟨kept, password.encoded, stored, read, rfl⟩

/-- A last digit with bits that belong to no byte: the text stands for itself, also after it was kept as
bytes. -/
theorem decode_exact_strayBits :
    (∀ plain, (ofPlain plain).encoded ≠ "Zh==") ∧ (mk "Zh==").decode = "Zh==" ∧
      ∃ (kept : Secret) (encoded : String),
        Keeping.asBytes.keep none (.secret (PortManager.credentialsSecret "edge" "a@b.c" ⟨"Zh=="⟩)) =
          .secret kept ∧
        kept.text? PortManager.passwordKey = some encoded ∧ (mk encoded).decode = "Zh==" := by
  have formless : ¬ Base64.IsCanonical "Zh==".toList := by
    rw [Base64.isCanonical_iff]
    rintro ⟨bs, encoded⟩
    have undecoded : Base64.decode? "Zh==".toList = none := by decide
    rw [Base64.decode?_eq_some_iff.2 encoded] at undecoded
    cases undecoded
  have foreign := (decode_exact.2.2.1 "Zh==").2 (.inl formless)
  rcases decode_exact.2.1 "Zh==" with ⟨plain, encoded, -⟩ | ⟨-, itself⟩
  · exact absurd encoded (foreign plain)
  · obtain ⟨kept, encoded, stored, read, same⟩ := decode_exact.2.2.2 .asBytes none "edge" "a@b.c" ⟨"Zh=="⟩
    exact ⟨foreign, itself, kept, encoded, stored, read, same.trans itself⟩

end Credential

end EdgePlane
