import EdgePlane.Proofs.Pass
import EdgePlane.Proofs.SessionTrace

/-!
# What a part with a clean outcome has done

A part has many ways out: it waits, it is refused, it fails. If its outcome is clean then it went all
the way, so its trace tells which objects were stored and what was looked up.
-/

namespace EdgePlane.Reconcile

open Kubernetes

variable {settings : Setup} {cp : ControlPlane} {target : Target} {t : List Event} {o : Outcome}

/-- To wait is not clean. -/
theorem not_clean_waiting : (waiting settings).isClean = false := rfl

/-- The external address of the service that an object is, as it was given to its load balancer. -/
def externalAddress? (o : Option Object) : Option String :=
  (o.bind (·.service?)).bind (·.externalAddress)

/-- The address of a load balancer outlasts the replacement of its service. -/
theorem externalAddress?_keepingStatus {s : Service} (h : s.status = none) (old : Option Object) :
    externalAddress? (some ((Object.service s).keepingStatus old)) = externalAddress? old := by
  cases old with
  | none => simp [externalAddress?, Object.service?, Service.externalAddress, h]
  | some o =>
    cases o with
    | service old =>
      simp [externalAddress?, Object.service?, Object.keepingStatus, Service.externalAddress, h]
    | _ =>
      simp [externalAddress?, Object.service?, Object.keepingStatus, Service.externalAddress, h]

/-- What a lookup of the router's address has seen: the address of the service if it is a load
balancer, and nothing if an address is declared. -/
def SeesAddress (cp : ControlPlane) (ns address : String) (t : List Event) : Prop :=
  if cp.spec.services.router.isLoadBalancer then
    ∃ found, t = [⟨.get ⟨.service, ns, Router.name⟩, .ok found⟩] ∧
      externalAddress? found = some address
  else t = [] ∧ address = cp.spec.ingresses.router.address

theorem yields_routerAddress {ns address : String}
    (h : (routerAddress cp ns).Yields t (some address)) : SeesAddress cp ns address t := by
  unfold routerAddress at h
  unfold SeesAddress
  dsimp only at h
  split
  · rename_i balanced
    rw [if_pos balanced] at h
    obtain ⟨found, rfl, haddress⟩ := Attempt.yields_discoverAddress.1 h
    exact ⟨found, rfl, haddress.symm⟩
  · rename_i declared
    rw [if_neg declared] at h
    split at h
    · exact (Attempt.yields_throw.1 h).elim
    · obtain ⟨rfl, heq⟩ := Attempt.yields_pure.1 h
      exact ⟨rfl, Option.some.inj heq⟩

/-- What a lookup of the authority has done: it found the one that is stored, or it stored a new
one. -/
inductive SeesAuthority (pem : PemReader) (target : Target) (ca : KeyedCertificate) : List Event → Prop
  | kept (found : Object) (secret : Secret) (isSecret : found.secret? = some secret)
      (loaded : KeyedCertificate.ofSecret pem secret = .ok ca) :
      SeesAuthority pem target ca
        [⟨.get ⟨.secret, target.namespaceName, Router.authoritySecretName⟩, .ok (some found)⟩]
  | made (found : Option Object) (fresh : KeyPair) (r : SyncResult) (t : List Event)
      (missing : found.bind (·.secret?) = none)
      (new : ca = .authority Router.authoritySecretName fresh)
      (synced : (target.syncOnce (.secret
        (ca.authoritySecret Router.authoritySecretName target.namespaceName))).Yields t r) :
      SeesAuthority pem target ca
        (⟨.get ⟨.secret, target.namespaceName, Router.authoritySecretName⟩, .ok found⟩ ::
          ⟨.drawKey, fresh⟩ :: t)

theorem yields_routerAuthority {pem : PemReader} {ca : KeyedCertificate}
    (h : (routerAuthority pem target).Yields t ca) : SeesAuthority pem target ca t := by
  obtain ⟨t₁, secret, t₂, rfl, look, rest⟩ := Attempt.yields_bind.1 h
  obtain ⟨found, rfl, rfl⟩ := Attempt.yields_getSecret.1 look
  cases hsecret : found.bind (·.secret?) with
  | some secret =>
    simp only [hsecret] at rest
    obtain ⟨rfl, loaded⟩ := Attempt.yields_ofExcept.1 rest
    obtain ⟨old, rfl, hold⟩ := Option.bind_eq_some_iff.1 hsecret
    refine .kept old secret hold ?_
    cases h : KeyedCertificate.ofSecret pem secret with
    | error e =>
      rw [h] at loaded
      cases loaded
    | ok ca' =>
      rw [h] at loaded
      cases loaded
      rfl
  | none =>
    simp only [hsecret] at rest
    obtain ⟨t₃, fresh, t₄, rfl, drawn, store⟩ := Attempt.yields_bind.1 rest
    obtain rfl := Attempt.yields_drawKey.1 drawn
    obtain ⟨r, synced, rfl⟩ := Attempt.yields_bind_pure.1 store
    exact .made found fresh r t₄ hsecret rfl synced

/-- The leaf secret of a name: a certificate for an address that an authority issued with a fresh key. -/
def leafSecret (ns : String) (ca : KeyedCertificate) (address : String) (alternative : AlternativeName)
    (name : String) (fresh : KeyPair) : Object :=
  .secret ((ca.issue address alternative fresh).secret name ns ca.certificate)

theorem yields_syncLeaf {ca : KeyedCertificate} {address name : String} {u : Unit}
    (h : (syncLeaf target ca address name).Yields t u) :
    ∃ alternative fresh, KeyedCertificate.alternativeName address = .ok alternative ∧
      stored t = [(leafSecret target.namespaceName ca address alternative name fresh).ownedBy
        target.owner] := by
  obtain ⟨t₁, alternative, t₂, rfl, read, rest⟩ := Attempt.yields_bind.1 h
  obtain ⟨rfl, named⟩ := Attempt.yields_ofExcept.1 read
  obtain ⟨t₃, fresh, t₄, rfl, drawn, store⟩ := Attempt.yields_bind.1 rest
  obtain rfl := Attempt.yields_drawKey.1 drawn
  obtain ⟨r, synced, -⟩ := Attempt.yields_bind_pure.1 store
  refine ⟨alternative, fresh, ?_, ?_⟩
  · cases parsed : KeyedCertificate.alternativeName address with
    | ok name =>
      rw [parsed] at named
      exact congrArg Except.ok (Except.ok.inj named)
    | error e =>
      rw [parsed] at named
      cases named
  rw [stored_append, stored_append, stored_sync synced]
  rfl

/-- Whether an object is a leaf secret of a name: a certificate for an address that an authority
issued. -/
def IsLeaf (ns : String) (ca : KeyedCertificate) (address name : String) (o : Object) : Prop :=
  ∃ alternative fresh,
    o = .secret ((ca.issue address alternative fresh).secret name ns ca.certificate)

/-- The router as a component of a control plane. -/
def routerOf (settings : Setup) (cp : ControlPlane) : Component :=
  Router.component (routerConfig settings cp)

/-- The port manager as a component of a control plane. -/
def portManagerOf (settings : Setup) (cp : ControlPlane) (ns : String) : Component :=
  PortManager.component (portManagerConfig settings cp ns)

/-- What the router's part has done when its outcome is clean. -/
structure CleanRouter (settings : Setup) (cp : ControlPlane) (target : Target)
    (address : String) (ca : KeyedCertificate) (amqps internal : Object) (t : List Event) : Prop where
  target_eq : Target.of cp = .ok target
  amqps_leaf : IsLeaf target.namespaceName ca address Router.amqpsSecretName amqps
  internal_leaf : IsLeaf target.namespaceName ca address Router.internalSecretName internal
  named : ∃ alternative, KeyedCertificate.alternativeName address = .ok alternative ∧
    (∃ fresh, amqps = leafSecret target.namespaceName ca address alternative Router.amqpsSecretName fresh) ∧
    ∃ fresh, internal =
      leafSecret target.namespaceName ca address alternative Router.internalSecretName fresh
  trace : ∃ t₁ t₂ t₃ t₄, t = t₁ ++ (t₂ ++ (t₃ ++ t₄)) ∧
    SeesAddress cp target.namespaceName address t₂ ∧ SeesAuthority settings.pem target ca t₃ ∧
    stored t₁ = target.owned ((routerOf settings cp).identity target.namespaceName ++
      (routerOf settings cp).services target.namespaceName) ∧
    stored t₄ = target.owned [amqps, internal,
      .deployment ((routerOf settings cp).deployment target.namespaceName)]

theorem cleanRouter (plays : (router settings cp).Plays t o) (clean : o.isClean) :
    ∃ target address ca amqps internal,
      CleanRouter settings cp target address ca amqps internal t := by
  obtain ⟨t₁, target, t₂, rfl, h, rest₁⟩ := Attempt.yields_bind.1 (yields_of_clean plays clean)
  obtain ⟨rfl, htarget⟩ := Attempt.yields_ofExcept.1 h
  obtain ⟨t₃, u, t₄, rfl, identity, rest₂⟩ := Attempt.yields_bind.1 rest₁
  obtain ⟨t₅, u, t₆, rfl, service, rest₃⟩ := Attempt.yields_bind.1 rest₂
  obtain ⟨t₇, address, t₈, rfl, seen, rest₄⟩ := Attempt.yields_bind.1 rest₃
  cases address with
  | none =>
    obtain ⟨-, rfl⟩ := Attempt.yields_pure.1 rest₄
    simp [not_clean_waiting] at clean
  | some address =>
    obtain ⟨t₉, ca, t₁₀, rfl, authority, rest₅⟩ := Attempt.yields_bind.1 rest₄
    obtain ⟨t₁₁, u, t₁₂, rfl, leaves, rest₆⟩ := Attempt.yields_bind.1 rest₅
    obtain ⟨r, deployment, -⟩ := Attempt.yields_bind_pure.1 rest₆
    obtain ⟨t₁₃, u, t₁₄, rfl, amqps, leaves⟩ := Attempt.yields_bind.1 leaves
    obtain ⟨t₁₅, u, t₁₆, rfl, internal, leaves⟩ := Attempt.yields_bind.1 leaves
    obtain ⟨rfl, -⟩ := Attempt.yields_pure.1 leaves
    obtain ⟨alternative, fresh, named, hamqps⟩ := yields_syncLeaf amqps
    obtain ⟨alternative', fresh', named', hinternal⟩ := yields_syncLeaf internal
    obtain rfl := Except.ok.inj (named.symm.trans named')
    refine ⟨target, address, ca, _, _, htarget, ⟨alternative, fresh, rfl⟩, ⟨alternative, fresh', rfl⟩,
      ⟨alternative, named, ⟨fresh, rfl⟩, fresh', rfl⟩, t₃ ++ t₅, t₇, t₉, t₁₃ ++ t₁₅ ++ t₁₂, ?_,
      yields_routerAddress seen, yields_routerAuthority authority, ?_, ?_⟩
    · simp only [List.nil_append, List.append_nil, List.append_assoc]
    · rw [stored_append, Target.stored_syncIdentity identity, Target.stored_syncService service,
        Target.owned_append]
      rfl
    · simp [hamqps, hinternal, leafSecret, stored_sync deployment, routerOf]

/-- The controller as a component of a control plane. -/
def controllerOf (settings : Setup) (cp : ControlPlane) : Component :=
  Controller.component (controllerConfig settings cp)

/-- The secret with the declared settings of the database. -/
def databaseSecretOf (cp : ControlPlane) (ns : String) : Secret :=
  Controller.databaseSecret ns cp.spec.database

/-- The claim for the volume of the database file, unless the database is outside. -/
def claims (cp : ControlPlane) (ns : String) : List Object :=
  if cp.spec.database.isExternal then [] else [.volumeClaim (Controller.claim ns)]

/-- Whether the stored settings of the database differ from the declared ones. -/
def isDatabaseChanged (cp : ControlPlane) (ns : String) (found : Option Object) : Bool :=
  (found.bind (·.secret?)).any (·.isChangedBy (databaseSecretOf cp ns))

/-- Syncing the controller's objects looks up the stored settings of the database before it replaces
them. -/
theorem yields_syncController {existed changed : Bool}
    (h : (syncController settings target cp).Yields t (existed, changed)) :
    ∃ t₁ found t₂ r t₃, t = t₁ ++
        (⟨.get ⟨.secret, target.namespaceName, Controller.databaseSecretName⟩, .ok found⟩ ::
          (t₂ ++ t₃)) ∧
      changed = isDatabaseChanged cp target.namespaceName found ∧
      stored t₁ = target.owned ((controllerOf settings cp).identity target.namespaceName) ∧
      (target.syncObject (.secret (databaseSecretOf cp target.namespaceName))).Yields t₂ r ∧
      stored t₃ = target.owned ((controllerOf settings cp).services target.namespaceName ++
        claims cp target.namespaceName ++
        [.deployment ((controllerOf settings cp).deployment target.namespaceName)]) := by
  obtain ⟨t₁, u, t₂, rfl, identity, rest₁⟩ := Attempt.yields_bind.1 h
  obtain ⟨t₃, secret, t₄, rfl, look, rest₂⟩ := Attempt.yields_bind.1 rest₁
  obtain ⟨found, rfl, rfl⟩ := Attempt.yields_getSecret.1 look
  obtain ⟨t₅, r, t₆, rfl, database, rest₃⟩ := Attempt.yields_bind.1 rest₂
  obtain ⟨t₇, u, t₈, rfl, service, rest₄⟩ := Attempt.yields_bind.1 rest₃
  have ending : stored t₈ = target.owned (claims cp target.namespaceName ++
        [.deployment ((controllerOf settings cp).deployment target.namespaceName)]) ∧
      changed = isDatabaseChanged cp target.namespaceName found := by
    cases external : cp.spec.database.isExternal with
    | false =>
      simp only [external, Bool.not_false, if_true] at rest₄
      obtain ⟨t₉, r, t₁₀, rfl, claim, rest₅⟩ := Attempt.yields_bind.1 rest₄
      obtain ⟨d, deployment, heq⟩ := Attempt.yields_bind_pure.1 rest₅
      rw [stored_append, stored_sync claim, stored_sync deployment]
      exact ⟨by simp [claims, external, controllerOf], (Prod.mk.inj heq).2⟩
    | true =>
      simp only [external, Bool.not_true, Bool.false_eq_true, if_false] at rest₄
      obtain ⟨d, deployment, heq⟩ := Attempt.yields_bind_pure.1 rest₄
      rw [stored_sync deployment]
      exact ⟨by simp [claims, external, controllerOf], (Prod.mk.inj heq).2⟩
  refine ⟨t₁, found, t₅, r, t₇ ++ t₈, by simp, ending.2, Target.stored_syncIdentity identity,
    database, ?_⟩
  rw [stored_append, Target.stored_syncService service, ending.1]
  simp [controllerOf]

/-- What the controller's part has done when its outcome is clean. -/
structure CleanController (settings : Setup) (cp : ControlPlane) (target : Target)
    (host : String) (t : List Event) : Prop where
  target_eq : Target.of cp = .ok target
  trace : ∃ t₀ t₁ t₂ t₃ t₄ t₅ session, t = t₀ ++ (t₁ ++ (t₂ ++ (t₃ ++ (t₄ ++
      (⟨.putRouter (internalUrl target.namespaceName) session.token (registration cp host), .ok ()⟩ ::
        t₅))))) ∧
    (∃ changed, (syncController settings target cp).Yields t₁ (true, changed)) ∧
    (openSession target (internalUrl target.namespaceName) cp.spec.user).Yields t₃ session ∧
    SeesAddress cp target.namespaceName host t₄ ∧
    (∀ e ∈ t₀, e.IsIdle) ∧ (∀ e ∈ t₂, e.IsIdle) ∧ ∀ e ∈ t₅, e.IsIdle

theorem clean_bootstrapController
    (h : (bootstrapController settings target cp).Yields t o) (clean : o.isClean) :
    ∃ t₂ t₃ t₄ t₅ session host, t = t₂ ++ (t₃ ++ (t₄ ++
        (⟨.putRouter (internalUrl target.namespaceName) session.token (registration cp host),
          .ok ()⟩ :: t₅))) ∧
      (openSession target (internalUrl target.namespaceName) cp.spec.user).Yields t₃ session ∧
      SeesAddress cp target.namespaceName host t₄ ∧ (∀ e ∈ t₂, e.IsIdle) ∧ ∀ e ∈ t₅, e.IsIdle := by
  obtain ⟨t₁, u, t₂, rfl, connected, rest₁⟩ := Attempt.yields_bind.1 h
  obtain ⟨t₃, u, t₄, rfl, available, rest₂⟩ := Attempt.yields_bind.1 rest₁
  obtain ⟨t₅, session, t₆, rfl, opened, rest₃⟩ := Attempt.yields_bind.1 rest₂
  obtain ⟨t₇, host, t₈, rfl, seen, rest₄⟩ := Attempt.yields_bind.1 rest₃
  obtain rfl := Attempt.yields_connect.1 connected
  cases host with
  | none =>
    obtain ⟨-, rfl⟩ := Attempt.yields_pure.1 rest₄
    simp [not_clean_waiting] at clean
  | some host =>
    obtain ⟨t₉, u, t₁₀, rfl, registered, rest₅⟩ := Attempt.yields_bind.1 rest₄
    obtain rfl := (Program.plays_perform rfl).1 (Attempt.yields_viaApi.1 registered)
    refine ⟨⟨.connect (internalUrl target.namespaceName), .ok ()⟩ :: t₃, t₅, t₇, t₁₀, session, host, ?_,
      opened, yields_routerAddress seen, ?_, ?_⟩
    · simp
    · intro e he
      rcases List.mem_cons.1 he with rfl | he
      · exact ⟨rfl, fun _ => rfl⟩
      · exact idle_of_only available (waitUntilAvailable_reach ..) e he
    · split at rest₅
      · obtain ⟨rfl, -⟩ := Attempt.yields_pure.1 rest₅
        simp
      · refine idle_of_only rest₅ (.bind (only_discoverAddress ..) fun address => ?_)
        cases address with
        | none => exact .pure _
        | some address =>
          refine .tryCatch (.bind ?_ fun _ => .pure _) fun _ => .pure _
          exact .bind (Program.Only.perform (.inl rfl)) fun _ => waitUntilAvailable_reach ..

theorem clean_driveController (htarget : Target.of cp = .ok target)
    (h : (driveController settings target cp).Yields t o) (clean : o.isClean) :
    ∃ host, ∀ t₀, (∀ e ∈ t₀, e.IsIdle) → CleanController settings cp target host (t₀ ++ t) := by
  obtain ⟨t₁, ⟨existed, changed⟩, t₂, rfl, synced, rest₁⟩ := Attempt.yields_bind.1 h
  cases existed with
  | false =>
    obtain ⟨-, rfl⟩ := Attempt.yields_pure.1 rest₁
    simp [not_clean_waiting] at clean
  | true =>
    have restarted : ∃ u₁ u₂, t₂ = u₁ ++ u₂ ∧ (∀ e ∈ u₁, e.IsIdle) ∧
        (bootstrapController settings target cp).Yields u₂ o := by
      cases changed with
      | false => exact ⟨[], t₂, rfl, by simp, rest₁⟩
      | true =>
        obtain ⟨u₁, u, u₂, rfl, restarted, rest₂⟩ := Attempt.yields_bind.1 rest₁
        obtain rfl := Attempt.yields_restart.1 restarted
        exact ⟨_, u₂, rfl, by simp [Event.IsIdle, Event.stored?, Call.isAccountAt], rest₂⟩
    obtain ⟨u₁, u₂, rfl, idle, bootstrapped⟩ := restarted
    obtain ⟨v₁, v₂, v₃, v₄, session, host, rfl, opened, seen, before, after⟩ :=
      clean_bootstrapController bootstrapped clean
    refine ⟨host, fun t₀ h₀ => ⟨htarget, t₀, t₁, u₁ ++ v₁, v₂, v₃, v₄, session, by simp,
      ⟨changed, synced⟩, opened, seen, h₀, fun e he => ?_, after⟩⟩
    rcases List.mem_append.1 he with he | he
    · exact idle e he
    · exact before e he

theorem cleanController (plays : (controller settings cp).Plays t o) (clean : o.isClean) :
    ∃ target host, CleanController settings cp target host t := by
  obtain ⟨_, target, t, rfl, h, rest⟩ := Attempt.yields_bind.1 (yields_of_clean plays clean)
  obtain ⟨rfl, htarget⟩ := Attempt.yields_ofExcept.1 h
  rw [List.nil_append]
  dsimp only at rest
  split at rest
  · obtain ⟨t₁, u, t₂, rfl, verified, rest⟩ := Attempt.yields_bind.1 rest
    obtain ⟨host, h⟩ := clean_driveController htarget rest clean
    exact ⟨target, host, h t₁ (idle_of_only verified (verifyPullSecret_reach ..))⟩
  · obtain ⟨host, h⟩ := clean_driveController htarget rest clean
    exact ⟨target, host, h [] (by simp)⟩

/-- What the port manager's part has done when its outcome is clean: of the credentials it has stored
at most its own. -/
structure CleanPortManager (settings : Setup) (cp : ControlPlane) (target : Target)
    (t : List Event) : Prop where
  target_eq : Target.of cp = .ok target
  trace : ∃ t₁ t₂ t₃ r, t = t₁ ++ (t₂ ++ t₃) ∧
    stored t₁ = target.owned ((portManagerOf settings cp target.namespaceName).identity
      target.namespaceName) ∧
    (target.syncOnce (credentialsOf target cp.spec.user)).Yields t₂ r ∧
    stored t₃ = target.owned [.deployment ((portManagerOf settings cp
      target.namespaceName).deployment target.namespaceName)]

theorem cleanPortManager (plays : (portManager settings cp).Plays t o) (clean : o.isClean) :
    ∃ target, CleanPortManager settings cp target t := by
  obtain ⟨_, target, t, rfl, h, rest₁⟩ := Attempt.yields_bind.1 (yields_of_clean plays clean)
  obtain ⟨rfl, htarget⟩ := Attempt.yields_ofExcept.1 h
  obtain ⟨t₁, u, t₂, rfl, identity, rest₂⟩ := Attempt.yields_bind.1 rest₁
  obtain ⟨t₃, r, t₄, rfl, credentials, rest₃⟩ := Attempt.yields_bind.1 rest₂
  obtain ⟨d, deployment, -⟩ := Attempt.yields_bind_pure.1 rest₃
  exact ⟨target, htarget, t₁, t₃, t₄, r, rfl, Target.stored_syncIdentity identity, credentials,
    stored_sync deployment⟩

end EdgePlane.Reconcile
