import EdgePlane.Proofs.Overlap

/-!
# Trust in an authority

An authority is loaded from two entries of a secret, each of which is read by itself. That both can be read,
by whatever reader, does not make them belong together. What the authority issues has the name of its
certificate and a key of its own in any case, but it is signed with the authority's key. So it verifies with the
certificate just if that belongs to the key, which nothing checks.
-/

namespace EdgePlane

open Kubernetes

/-- Whether a secret holds a certificate with its key, issued under the name of the certificate of an
authority beside it. -/
structure Vouches (secret : Secret) (leaf authority : Certificate) : Prop where
  certificate : secret.data? certificateKey = some (.certificate leaf)
  key : secret.data? privateKeyKey = some (.privateKey leaf.key)
  bundle : secret.data? authorityKey = some (.certificate authority)
  issuer : leaf.issuer = authority.subject

namespace KeyedCertificate

/-- Whether a certificate belongs to the key beside it. -/
def IsMatched (own : KeyedCertificate) : Prop := own.certificate.key = own.key

/-- Whether a certificate and a key are what two entries of a secret are read as. -/
structure IsReadFrom (pem : PemReader) (own : KeyedCertificate) (s : Secret) : Prop where
  certificate : ∃ entry, s.value? certificateKey = some entry ∧ pem.readCertificate entry = .ok own.certificate
  key : ∃ entry, s.value? privateKeyKey = some entry ∧ pem.readKey entry = .ok own.key

/-- Whether the certificate and the key that the entries of a secret are read as belong together. -/
def AreMatched (pem : PemReader) (s : Secret) : Prop :=
  ∃ own : KeyedCertificate, own.IsReadFrom pem s ∧ own.IsMatched

/-- What an authority issues for a subject, if that can be the name of a server. -/
def issueFor (ca : KeyedCertificate) (subject : String) (fresh : KeyPair) :
    Except IssuerError KeyedCertificate :=
  (alternativeName subject).map fun alternative => ca.issue subject alternative fresh

variable {pem : PemReader} {s : Secret} {ca : KeyedCertificate}

theorem require_eq_ok_iff {name key : String} {value : SecretValue} :
    ofSecret.require s name key = .ok value ↔ s.value? key = some value := by
  unfold ofSecret.require
  cases s.value? key with
  | none => simp
  | some found => simp

/-- An error that is reported in other words is an error still. -/
theorem mapError_eq_ok_iff {α ε ε' : Type} {r : Except ε α} {f : ε → ε'} {a : α} :
    r.mapError f = .ok a ↔ r = .ok a := by
  cases r with
  | error e => exact ⟨nofun, nofun⟩
  | ok found =>
    constructor
    · intro same
      rw [Except.ok.inj same]
    · intro same
      rw [Except.ok.inj same]
      rfl

theorem bind_eq_ok_iff {α β ε : Type} {r : Except ε α} {f : α → Except ε β} {b : β} :
    (r >>= f) = .ok b ↔ ∃ a, r = .ok a ∧ f a = .ok b := by
  cases r <;> simp [bind, Except.bind]

/-- An authority is loaded just if it is what the two entries are read as. -/
theorem ofSecret_eq_ok_iff : ofSecret pem s = .ok ca ↔ ca.IsReadFrom pem s := by
  simp only [ofSecret, bind_eq_ok_iff, require_eq_ok_iff, mapError_eq_ok_iff]
  constructor
  · rintro ⟨certificate, hasCertificate, key, hasKey, k, readKey, c, readCertificate, same⟩
    obtain rfl := Except.ok.inj same
    exact ⟨⟨certificate, hasCertificate, readCertificate⟩, key, hasKey, readKey⟩
  · rintro ⟨⟨certificate, hasCertificate, readCertificate⟩, key, hasKey, readKey⟩
    exact ⟨certificate, hasCertificate, key, hasKey, ca.key, readKey, ca.certificate, readCertificate, rfl⟩

theorem areMatched_iff (loaded : ofSecret pem s = .ok ca) : AreMatched pem s ↔ ca.IsMatched := by
  constructor
  · rintro ⟨own, read, matched⟩
    obtain rfl := Except.ok.inj ((ofSecret_eq_ok_iff.2 read).symm.trans loaded)
    exact matched
  · intro matched
    exact ⟨ca, ofSecret_eq_ok_iff.1 loaded, matched⟩

theorem vouches_secret (ca : KeyedCertificate) (subject : String) (alternative : AlternativeName)
    (fresh : KeyPair) (name ns : String) :
    Vouches ((ca.issue subject alternative fresh).secret name ns ca.certificate)
      (ca.issue subject alternative fresh).certificate ca.certificate :=
  ⟨rfl, rfl, rfl, rfl⟩

/-- What an authority issues verifies with its certificate just if that belongs to its key. -/
theorem isSignedBy_issue_iff (ca : KeyedCertificate) (subject : String) (alternative : AlternativeName)
    (fresh : KeyPair) :
    (ca.issue subject alternative fresh).certificate.isSignedBy ca.certificate = true ↔
      ca.IsMatched := by
  rw [Certificate.isSignedBy, decide_eq_true_iff, IsMatched, eq_comm]
  rfl

theorem exists_of_issueFor {subject : String} {fresh : KeyPair} {leaf : KeyedCertificate}
    (issued : ca.issueFor subject fresh = .ok leaf) :
    ∃ alternative, alternativeName subject = .ok alternative ∧ leaf = ca.issue subject alternative fresh := by
  unfold issueFor at issued
  cases named : alternativeName subject with
  | error e =>
    rw [named] at issued
    cases issued
  | ok alternative =>
    rw [named] at issued
    exact ⟨alternative, rfl, (Except.ok.inj issued).symm⟩

end KeyedCertificate

namespace Reconcile

open KeyedCertificate

/-- How a secret with a certificate comes about in a pass: it is issued by an authority that the pass makes
when it finds none, or by the one of a secret that it finds. -/
inductive IsIssued (pem : PemReader) (ns : String) (t : List Event) (own : Secret) : Prop
  | byNew (leaf authority : Certificate) (found : Option Object)
    (looked : ⟨.get (authorityAddress ns), .ok found⟩ ∈ t) (missing : found.bind (·.secret?) = none)
    (vouches : Vouches own leaf authority) (verifies : leaf.isSignedBy authority = true)
  | byKept (leaf authority : Certificate) (found : Object) (secret : Secret)
    (looked : ⟨.get (authorityAddress ns), .ok (some found)⟩ ∈ t) (isSecret : found.secret? = some secret)
    (vouches : Vouches own leaf authority)
    (verifies : leaf.isSignedBy authority = true ↔ AreMatched pem secret)

variable {settings : Setup} {cp : ControlPlane} {ns : String} {t : List Event} {outcome : Outcome}

/-- A leaf secret that a pass stores is issued by the authority that the pass has seen to. -/
theorem isIssued_of_router (home : cp.metadata.namespaceName = some ns)
    (plays : (router settings cp).Plays t outcome) {name : String} (isLeaf : name ∈ Router.leafSecretNames)
    {e : Event} (he : e ∈ t) {o : Object} (stores : e.storedAt? ⟨.secret, ns, name⟩ = some o) :
    ∃ own, o = .secret own ∧ IsIssued settings.pem ns t own := by
  obtain ⟨stored, here⟩ := Event.storedAt?_eq_some.1 stores
  obtain ⟨target, ca, address, u, sees⟩ :=
    (plays_router home plays).seesTo he stored (congrArg Address.kind here)
  obtain ⟨leaf, ⟨alternative, fresh, rfl⟩, rfl⟩ := sees.leaves name isLeaf e he o stores
  obtain rfl := sees.home
  refine ⟨_, rfl, ?_⟩
  -- The owner does not count for what a secret holds.
  have vouches := vouches_secret ca address alternative fresh name target.namespaceName
  have signed := isSignedBy_issue_iff ca address alternative fresh
  cases sees.sees with
  | kept found secret isSecret loaded =>
    rw [← areMatched_iff loaded] at signed
    exact .byKept _ ca.certificate found secret (sees.sub _ (by simp [authorityAddress])) isSecret
      ⟨vouches.certificate, vouches.key, vouches.bundle, vouches.issuer⟩ signed
  | made found drawn r t' missing new synced =>
    have matched : ca.IsMatched := by
      rw [new]
      rfl
    exact .byNew _ ca.certificate found (sees.sub _ (by simp [authorityAddress])) missing
      ⟨vouches.certificate, vouches.key, vouches.bundle, vouches.issuer⟩ (signed.2 matched)

/-- A certificate and a key load as an authority just if two entries are read as them. The certificate is the
issuer of what the authority issues, with the right key beside it; but what is issued verifies with it just
if the certificate and the key of the two entries belong together. They do for a new authority, which loads
as itself. So it is with each certificate that the router's part stores. -/
theorem verifies_iff_areMatched (pem : PemReader) (s : Secret) (ca : KeyedCertificate) :
    (ofSecret pem s = .ok ca ↔ ca.IsReadFrom pem s) ∧
    (ofSecret pem s = .ok ca → ∀ subject fresh leaf, ca.issueFor subject fresh = .ok leaf →
      ∀ name ns, Vouches (leaf.secret name ns ca.certificate) leaf.certificate ca.certificate ∧
        (leaf.certificate.isSignedBy ca.certificate = true ↔ AreMatched pem s)) ∧
    (∀ commonName fresh name ns,
      ofSecret pem ((authority commonName fresh).authoritySecret name ns) = .ok (authority commonName fresh) ∧
      AreMatched pem ((authority commonName fresh).authoritySecret name ns)) ∧
    ∀ settings (cp : ControlPlane) ns, cp.metadata.namespaceName = some ns →
      ∀ t outcome, (router settings cp).Plays t outcome → ∀ name ∈ Router.leafSecretNames, ∀ e ∈ t, ∀ o,
        e.storedAt? ⟨.secret, ns, name⟩ = some o → ∃ own, o = .secret own ∧ IsIssued settings.pem ns t own := by
  refine ⟨ofSecret_eq_ok_iff, fun loaded subject fresh leaf issued name ns => ?_,
    fun commonName fresh name ns => ?_,
    fun settings cp ns home t outcome plays name isLeaf e he o stores => ?_⟩
  · obtain ⟨alternative, -, rfl⟩ := exists_of_issueFor issued
    rw [areMatched_iff loaded]
    exact ⟨vouches_secret .., isSignedBy_issue_iff ..⟩
  · have loaded : ofSecret pem ((authority commonName fresh).authoritySecret name ns) =
        .ok (authority commonName fresh) := ofSecret_authoritySecret _ _ name ns _
    exact ⟨loaded, (areMatched_iff loaded).2 rfl⟩
  · exact isIssued_of_router home plays isLeaf he stores

section Runs

open Simulation

/-- A router behind an ingress. -/
def plainRouter : Program Outcome := router .standard (plainControlPlane "a@b.c" (.ofPlain "one") {})

/-- A new authority is loaded and issues a certificate for an address, and so does the router's part in an
empty world. -/
theorem verifies_of_new_authority :
    let ca := authority Router.authoritySecretName ⟨0⟩
    ofSecret .standard (ca.authoritySecret Router.authoritySecretName "ns") = .ok ca ∧
    ca.issueFor "10.0.0.1" ⟨1⟩ = .ok (ca.issue "10.0.0.1" (.ip (.v4 10 0 0 1)) ⟨1⟩) ∧
    ((ca.issue "10.0.0.1" (.ip (.v4 10 0 0 1)) ⟨1⟩).certificate.isSignedBy ca.certificate = true ↔
      AreMatched .standard (ca.authoritySecret Router.authoritySecretName "ns")) ∧
    ∃ e ∈ ({} : World).trace plainRouter, ∃ o own,
      e.storedAt? ⟨.secret, "ns", Router.amqpsSecretName⟩ = some o ∧ o = .secret own ∧
      IsIssued .standard "ns" (({} : World).trace plainRouter) own := by
  obtain ⟨-, issues, new, passes⟩ := verifies_iff_areMatched .standard
    ((authority Router.authoritySecretName ⟨0⟩).authoritySecret Router.authoritySecretName "ns")
    (authority Router.authoritySecretName ⟨0⟩)
  have loaded := (new Router.authoritySecretName ⟨0⟩ Router.authoritySecretName "ns").1
  have named : alternativeName "10.0.0.1" = .ok (.ip (.v4 10 0 0 1)) := rfl
  have issued : (authority Router.authoritySecretName ⟨0⟩).issueFor "10.0.0.1" ⟨1⟩ =
      .ok ((authority Router.authoritySecretName ⟨0⟩).issue "10.0.0.1" (.ip (.v4 10 0 0 1)) ⟨1⟩) := by
    rw [issueFor, named]
    rfl
  obtain ⟨e, he, stored⟩ : ∃ e ∈ ({} : World).trace plainRouter,
      (e.storedAt? ⟨.secret, "ns", Router.amqpsSecretName⟩).isSome := by decide +kernel
  obtain ⟨o, stores⟩ := Option.isSome_iff_exists.1 stored
  obtain ⟨own, isSecret, isIssued⟩ :=
    passes .standard _ "ns" rfl _ _ (World.plays_trace _ plainRouter) _ List.mem_cons_self e he o stores
  exact ⟨loaded, issued, (issues loaded _ _ _ issued Router.amqpsSecretName "ns").2, e, he, o, own, stores,
    isSecret, isIssued⟩

/-- The certificate of an authority with the key of another. -/
def strangers : KeyedCertificate where
  certificate := (authority Router.authoritySecretName ⟨100⟩).certificate
  key := ⟨101⟩

/-- A world that keeps them as the authority. -/
def strangersWorld : World where
  cluster := ({} : Cluster).insert (.secret (strangers.authoritySecret Router.authoritySecretName "ns"))

/-- They load as an authority. The pass of the router is clean, and what it leaves behind does not verify
with the certificate beside it. -/
theorem strangers_load_unverified :
    ofSecret .standard (strangers.authoritySecret Router.authoritySecretName "ns") = .ok strangers ∧
    (strangersWorld.run plainRouter).1 = .proceed ∧
    ∃ own leaf, (strangersWorld.run plainRouter).2.cluster.object?
        ⟨.secret, "ns", Router.amqpsSecretName⟩ = some (.secret own) ∧
      own.data? certificateKey = some (.certificate leaf) ∧
      own.data? authorityKey = some (.certificate strangers.certificate) ∧
      leaf.isSignedBy strangers.certificate = false := by
  refine ⟨rfl, by decide +kernel, ?_⟩
  exact ⟨_, (strangers.issue "10.0.0.1" (.ip (.v4 10 0 0 1)) ⟨0⟩).certificate, by rfl, by rfl, by rfl, rfl⟩

end Runs

end Reconcile

end EdgePlane
