import EdgePlane.Proofs.Accounts
import EdgePlane.Proofs.SyncTrace
import EdgePlane.Reconcile.Lifecycle

/-!
# What the parts of a pass can reach

The parts of a pass run side by side. They do not disturb each other, since each writes only objects of
its own names; the credentials of the port manager are the only object that two parts write. Only the
controller's part talks to the management interface.
-/

namespace EdgePlane

open Kubernetes

/-- The object that a call is to store. -/
def Call.stores? : Call → Option Object
  | .create o => some o
  | .apply o => some o
  | _ => none

/-- Whether a call of a part changes nothing that outlasts the pass. -/
def Call.isQuiet : Call → Bool
  | .get _ => true
  | .connect _ => true
  | .status _ => true
  | .sleep _ => true
  | .drawKey => true
  | _ => false

/-- Whether a call is about the control plane itself and not about its components. -/
def Call.isBookkeeping : Call → Bool
  | .fetch _ _ => true
  | .record _ _ => true
  | .now => true
  | .forget _ => true
  | _ => false

theorem Event.stores?_of_stored {e : Event} {o : Object} (h : e.stored? = some o) :
    e.call.stores? = some o := by
  obtain ⟨c, r⟩ := e
  cases c <;> cases r <;> simp_all [stored?, Call.stores?]

/-- A call that is quiet or stores an object of `W`. -/
def Call.Within (W : Object → Prop) (c : Call) : Prop :=
  c.isQuiet ∨ ∃ o, c.stores? = some o ∧ W o

namespace Attempt

variable {α β : Type} {P : Call → Prop} {x : Attempt α} {f : α → Attempt β}

theorem Only.bind (hx : x.Only P) (hf : ∀ a, (f a).Only P) : (x >>= f).Only P :=
  Program.Only.bind hx fun r => match r with
    | .ok a => hf a
    | .error _ => trivial

theorem Only.pure (a : α) : (Pure.pure a : Attempt α).Only P := trivial

theorem Only.throw (e : Failure) : (throw e : Attempt α).Only P := trivial

theorem Only.ofExcept (r : Except Failure α) : (Attempt.ofExcept r).Only P := trivial

theorem Only.tryCatch {g : Failure → Attempt α} (hx : x.Only P) (hg : ∀ e, (g e).Only P) :
    (tryCatch x g).Only P :=
  Program.Only.bind hx fun r => match r with
    | .ok _ => trivial
    | .error e => hg e

theorem Only.mono {Q : Call → Prop} (h : ∀ c, P c → Q c) (hx : x.Only P) : x.Only Q :=
  Program.Only.mono h hx

theorem Only.ofProgram {p : Program α} (hp : p.Only P) : (Attempt.ofProgram p).Only P :=
  Program.Only.bind hp fun _ => trivial

end Attempt

namespace Component

variable (c : Component) (ns : String)

@[simp] theorem address_serviceAccount :
    (Object.serviceAccount (c.serviceAccount ns)).address = ⟨.serviceAccount, ns, c.name⟩ := rfl

@[simp] theorem address_role : (Object.role (c.role ns)).address = ⟨.role, ns, c.name⟩ := rfl

@[simp] theorem address_roleBinding :
    (Object.roleBinding (c.roleBinding ns)).address = ⟨.roleBinding, ns, c.name⟩ := rfl

@[simp] theorem address_serviceOf (d : ServiceDefinition) :
    (Object.service (c.serviceOf ns d)).address = ⟨.service, ns, d.name⟩ := rfl

@[simp] theorem address_deployment :
    (Object.deployment (c.deployment ns)).address = ⟨.deployment, ns, c.name⟩ := rfl

end Component

@[simp] theorem Controller.address_databaseSecret (ns : String)
    (database : ControlPlane.Database) :
    (Object.secret (databaseSecret ns database)).address = ⟨.secret, ns, databaseSecretName⟩ := rfl

@[simp] theorem Controller.address_claim (ns : String) :
    (Object.volumeClaim (claim ns)).address = ⟨.volumeClaim, ns, claimName⟩ := rfl

@[simp] theorem PortManager.address_credentialsSecret (ns email : String) (password : Credential) :
    (Object.secret (credentialsSecret ns email password)).address =
      ⟨.secret, ns, credentialsSecretName⟩ := rfl

@[simp] theorem KeyedCertificate.address_secret (name ns : String) (own : KeyedCertificate)
    (ca : Certificate) :
    (Object.secret (own.secret name ns ca)).address = ⟨.secret, ns, name⟩ := rfl

variable {W : Object → Prop}

theorem only_ofExcept_bind {α β : Type} {P : Call → Prop} {r : Except Failure α}
    {f : α → Attempt β} (h : ∀ a, r = .ok a → (f a).Only P) :
    (Attempt.ofExcept r >>= f).Only P := by
  cases r with
  | ok a => exact h a rfl
  | error e => trivial

theorem only_get (a : Address) : (Attempt.get a).Only (Call.Within W) :=
  Program.Only.perform (.inl rfl)

theorem only_getSecret (ns name : String) : (Attempt.getSecret ns name).Only (Call.Within W) :=
  .bind (only_get _) fun _ => .pure _

theorem only_discoverAddress (ns name : String) :
    (Attempt.discoverAddress ns name).Only (Call.Within W) :=
  .bind (only_get _) fun _ => .pure _

theorem only_drawKey : Attempt.drawKey.Only (Call.Within W) :=
  .ofProgram (Program.Only.perform (.inl rfl))

/-- A sync looks its object up, creates it, or replaces it if it may. -/
theorem sync_reach {P : Call → Prop} {owner : OwnerReference} {mode : SyncMode} {o : Object}
    (look : P (.get o.address)) (create : P (.create (o.ownedBy owner)))
    (apply : mode = .apply → P (.apply (o.ownedBy owner))) : (sync owner mode o).Only P := by
  refine .bind (Program.Only.perform (by rwa [Object.address_ownedBy])) fun found => ?_
  cases found with
  | none => exact .bind (Program.Only.perform create) fun _ => .pure _
  | some old =>
    cases mode with
    | apply => exact .bind (Program.Only.perform (apply rfl)) fun _ => .pure _
    | createOnly => exact .pure _

/-- A sync reaches its object only. -/
theorem only_sync {owner : OwnerReference} {o : Object} (mode : SyncMode)
    (h : W (o.ownedBy owner)) : (sync owner mode o).Only (Call.Within W) :=
  sync_reach (.inl rfl) (.inr ⟨_, rfl, h⟩) fun _ => .inr ⟨_, rfl, h⟩

theorem only_settle {P : Call → Prop} {x : Attempt Outcome} (h : x.Only P) :
    (settle x).Only P :=
  Program.Only.bind h fun r => match r with
    | .ok _ => trivial
    | .error _ => trivial

/-- Whether an event neither stores anything nor is about an account. -/
def Event.IsIdle (e : Event) : Prop :=
  e.stored? = none ∧ ∀ url, e.call.isAccountAt url = false

theorem idle_of_within {e : Event} (h : e.call.Within fun _ => False) : e.IsIdle := by
  rcases h with h | ⟨o, -, h⟩
  · obtain ⟨c, r⟩ := e
    cases c <;> first | exact ⟨rfl, fun _ => rfl⟩ | simp [Call.isQuiet] at h
  · exact h.elim

theorem idle_of_only {α : Type} {x : Attempt α} {t : List Event} {a : α} (h : x.Yields t a)
    (only : x.Only (Call.Within fun _ => False)) : ∀ e ∈ t, e.IsIdle :=
  fun e he => idle_of_within (Program.Plays.only h only e he)

theorem stored_of_idle {t : List Event} (h : ∀ e ∈ t, e.IsIdle) : stored t = [] :=
  List.filterMap_eq_nil_iff.2 fun e he => (h e he).1

theorem storedAt_of_within {W : Object → Prop} {e : Event} {a : Address} (h : e.call.Within W)
    (apart : ∀ o, W o → o.address ≠ a) : e.storedAt? a = none := by
  cases hstored : e.stored? with
  | none => simp [Event.storedAt?, hstored]
  | some o =>
    have stores := Event.stores?_of_stored hstored
    rcases h with quiet | ⟨o', stores', hW⟩
    · obtain ⟨c, r⟩ := e
      cases c <;> simp [Call.isQuiet, Call.stores?] at quiet stores
    · obtain rfl := Option.some.inj (stores.symm.trans stores')
      simp [Event.storedAt?, hstored, Option.filter_some, apart o hW]

theorem stored_of_account {url : String} {t : List Event} (h : ∀ e ∈ t, e.call.isAccountAt url) :
    stored t = [] := by
  refine List.filterMap_eq_nil_iff.2 fun ⟨c, r⟩ he => ?_
  have account := h _ he
  cases c <;> first | rfl | simp [Call.isAccountAt] at account

theorem storedAt_of_account {e : Event} {url : String} (h : e.call.isAccountAt url) (a : Address) :
    e.storedAt? a = none := by
  obtain ⟨c, r⟩ := e
  cases c <;> first | rfl | simp [Call.isAccountAt] at h

theorem not_account_of_within {W : Object → Prop} {c : Call} (h : c.Within W) (url : String) :
    c.isAccountAt url = false := by
  rcases h with quiet | ⟨o, stores, -⟩
  · cases c <;> first | rfl | simp [Call.isQuiet] at quiet
  · cases c <;> first | rfl | simp [Call.stores?] at stores

/-- A sync is about no account. -/
theorem not_account_of_sync {owner : OwnerReference} {mode : SyncMode} {o : Object} {t : List Event}
    {r : Except Failure SyncResult} (h : (sync owner mode o).run.Plays t r) (url : String) :
    ∀ e ∈ t, e.call.isAccountAt url = false := fun e he =>
  not_account_of_within (W := fun _ => True) (Program.Plays.only h (only_sync mode trivial) e he) url

namespace Target

variable (target : Target) (component : Component)

theorem only_syncIdentity
    (account : W ((Object.serviceAccount (component.serviceAccount target.namespaceName)).ownedBy
      target.owner))
    (role : W ((Object.role (component.role target.namespaceName)).ownedBy target.owner))
    (binding : W ((Object.roleBinding (component.roleBinding target.namespaceName)).ownedBy
      target.owner)) :
    (target.syncIdentity component).Only (Call.Within W) := by
  refine .bind (only_sync .apply account) fun _ => ?_
  split
  · exact .bind (only_sync .apply role) fun _ => .bind (only_sync .apply binding) fun _ => .pure _
  · exact .pure _

theorem only_syncService
    (h : ∀ s, component.serviceObject target.namespaceName = some s →
      W ((Object.service s).ownedBy target.owner)) :
    (target.syncService component).Only (Call.Within W) := by
  unfold syncService
  split
  · rename_i s hs
    exact .bind (only_sync .apply (h s hs)) fun _ => .pure _
  · exact .pure _

theorem namespaceName_of {cp : ControlPlane} {target : Target} (h : Target.of cp = .ok target) :
    cp.metadata.namespaceName = some target.namespaceName ∧ cp.owner? = some target.owner := by
  unfold Target.of at h
  cases hns : cp.metadata.namespaceName with
  | none => simp [hns] at h
  | some ns =>
    cases howner : cp.owner? with
    | none => simp [hns, howner] at h
    | some owner =>
      simp only [hns, howner, Except.ok.injEq] at h
      subst h
      exact ⟨rfl, rfl⟩

end Target

/-- Whether a secret holds an authority whose certificate belongs to its key. -/
def Kubernetes.Object.HoldsAuthority (pem : PemReader) (o : Object) : Prop :=
  ∃ s ca, o = .secret s ∧ KeyedCertificate.ofSecret pem s = .ok ca ∧ ca.certificate.key = ca.key

/-- An authority is loaded from its secret as it was stored, whoever owns the secret. -/
theorem KeyedCertificate.ofSecret_authoritySecret (pem : PemReader) (ca : KeyedCertificate) (name ns : String)
    (metadata : Metadata) :
    ofSecret pem { ca.authoritySecret name ns with metadata } = .ok ca := by
  have certificate : ofSecret.require { ca.authoritySecret name ns with metadata } (metadata.name.getD "")
      certificateKey = .ok (.certificate ca.certificate) := rfl
  have key : ofSecret.require { ca.authoritySecret name ns with metadata } (metadata.name.getD "")
      privateKeyKey = .ok (.privateKey ca.key) := rfl
  simp only [ofSecret, certificate, key, bind, Except.bind, pem.readKey_privateKey,
    pem.readCertificate_certificate]
  rfl

namespace Reconcile

/-- The names of the objects that the router's part writes. -/
def routerNames : List String :=
  [Router.name, Router.authoritySecretName, Router.amqpsSecretName, Router.internalSecretName]

/-- The names of the controller's own objects. -/
def ownNames : List String :=
  [Controller.name, Controller.databaseSecretName, Controller.claimName]

/-- The names of the objects that the controller's part writes. -/
def controllerNames : List String := PortManager.credentialsSecretName :: ownNames

/-- The names of the objects that the port manager's part writes. -/
def portManagerNames : List String := [PortManager.name, PortManager.credentialsSecretName]

/-- Whether an object is in the namespace of a control plane, under one of some names. -/
def IsPartOf (cp : ControlPlane) (names : List String) (o : Object) : Prop :=
  cp.metadata.namespaceName = some o.address.namespaceName ∧ o.address.name ∈ names

/-- What the router's part may write: of an authority only one whose certificate belongs to its key. -/
def RouterWrites (pem : PemReader) (cp : ControlPlane) (o : Object) : Prop :=
  IsPartOf cp routerNames o ∧ (o.address.name = Router.authoritySecretName → o.HoldsAuthority pem)

/-- What a part calls: quiet calls and writes of its own objects. -/
theorem portManager_reach (settings : Setup) (cp : ControlPlane) :
    (portManager settings cp).Only (Call.Within (IsPartOf cp portManagerNames)) := by
  refine only_settle (only_ofExcept_bind fun target h => ?_)
  have hns := (Target.namespaceName_of h).1
  refine .bind (target.only_syncIdentity _ ?_ ?_ ?_) fun _ =>
    .bind (only_sync .createOnly ?_) fun _ => .bind (only_sync .apply ?_) fun _ => .pure _
  all_goals simp [IsPartOf, portManagerNames, PortManager.component, hns]

/-- The port manager's part replaces objects of its name only. -/
theorem portManager_applies (settings : Setup) (cp : ControlPlane) :
    (portManager settings cp).Only fun c => ∀ o, c = .apply o → o.address.name = PortManager.name := by
  have named {α : Type} {x : Attempt α} (h : x.Only (Call.Within (·.address.name = PortManager.name))) :
      x.Only fun c => ∀ o, c = .apply o → o.address.name = PortManager.name := by
    refine h.mono ?_
    rintro _ within o rfl
    rcases within with quiet | ⟨o', stores, hname⟩
    · cases quiet
    · rwa [← Option.some.inj stores] at hname
  refine only_settle (only_ofExcept_bind fun target h => ?_)
  refine .bind (named (target.only_syncIdentity _ ?_ ?_ ?_)) fun _ =>
    .bind (sync_reach ?_ ?_ ?_) fun _ => .bind (named (only_sync .apply ?_)) fun _ => .pure _
  all_goals simp [PortManager.component]

theorem routerAddress_reach (cp : ControlPlane) (ns : String) {W : Object → Prop} :
    (routerAddress cp ns).Only (Call.Within W) := by
  unfold routerAddress
  dsimp only
  split
  · exact only_discoverAddress _ _
  · split
    · exact .throw _
    · exact .pure _

/-- An authority that the router's part makes is whole. -/
theorem holdsAuthority_authority (pem : PemReader) (owner : OwnerReference) (name ns : String)
    (fresh : KeyPair) :
    ((Object.secret ((KeyedCertificate.authority name fresh).authoritySecret name ns)).ownedBy
      owner).HoldsAuthority pem :=
  ⟨_, _, rfl, KeyedCertificate.ofSecret_authoritySecret .., rfl⟩

theorem router_reach (settings : Setup) (cp : ControlPlane) :
    (router settings cp).Only (Call.Within (RouterWrites settings.pem cp)) := by
  refine only_settle (only_ofExcept_bind fun target h => ?_)
  have hns := (Target.namespaceName_of h).1
  have other {o : Object} (h : IsPartOf cp routerNames o)
      (hname : o.address.name ≠ Router.authoritySecretName) : RouterWrites settings.pem cp o :=
    ⟨h, fun h => absurd h hname⟩
  refine .bind (target.only_syncIdentity _ (other ?_ ?_) (other ?_ ?_) (other ?_ ?_)) fun _ =>
    .bind (target.only_syncService _ ?_) fun _ => .bind (routerAddress_reach cp _) fun address => ?_
  rotate_right
  · cases address with
    | none => exact .pure _
    | some address =>
      refine .bind ?_ fun ca => .bind ?_ fun _ => .bind (only_sync .apply (other ?_ ?_)) fun _ => .pure _
      · refine .bind (only_getSecret _ _) fun found => ?_
        cases found with
        | some secret => exact .ofExcept _
        | none =>
          refine .bind only_drawKey fun fresh => .bind (only_sync .createOnly ⟨?_, fun _ => ?_⟩) fun _ =>
            .pure _
          · simp [IsPartOf, routerNames, KeyedCertificate.authoritySecret, hns]
          · exact holdsAuthority_authority ..
      · have leaf (name : String) (hname : name ∈ Router.leafSecretNames) :
            (syncLeaf target ca address name).Only (Call.Within (RouterWrites settings.pem cp)) := by
          refine only_ofExcept_bind fun alternative _ => .bind only_drawKey fun fresh =>
            .bind (only_sync .apply (other ?_ ?_)) fun _ => .pure _
          · simp only [Router.leafSecretNames, List.mem_cons, List.not_mem_nil, or_false] at hname
            rcases hname with rfl | rfl <;> simp [IsPartOf, routerNames, hns]
          · simp only [Router.leafSecretNames, List.mem_cons, List.not_mem_nil, or_false] at hname
            rcases hname with rfl | rfl <;>
              simp [Router.amqpsSecretName, Router.internalSecretName, Router.authoritySecretName]
        exact .bind (leaf _ (by simp [Router.leafSecretNames])) fun _ =>
          .bind (leaf _ (by simp [Router.leafSecretNames])) fun _ => .pure _
      · simp [IsPartOf, routerNames, Router.component, hns]
      · simp [Router.component, Router.name, Router.authoritySecretName]
  · simp [IsPartOf, routerNames, Router.component, hns]
  · simp [Router.component, Router.name, Router.authoritySecretName]
  · simp [IsPartOf, routerNames, Router.component, hns]
  · simp [Router.component, Router.name, Router.authoritySecretName]
  · simp [IsPartOf, routerNames, Router.component, hns]
  · simp [Router.component, Router.name, Router.authoritySecretName]
  · intro s hs
    cases hs
    refine other ?_ ?_
    · simp [IsPartOf, routerNames, hns]
    · simp [Router.name, Router.authoritySecretName]

/-- What the router's part stores as an authority is whole. -/
theorem holdsAuthority_of_router {settings : Setup} {cp : ControlPlane} {t : List Event}
    {outcome : Outcome} {e : Event} {ns : String} {o : Object}
    (plays : (router settings cp).Plays t outcome) (he : e ∈ t)
    (h : e.storedAt? ⟨.secret, ns, Router.authoritySecretName⟩ = some o) : o.HoldsAuthority settings.pem := by
  obtain ⟨stored, here⟩ := Event.storedAt?_eq_some.1 h
  have stores := Event.stores?_of_stored stored
  rcases plays.only (router_reach settings cp) e he with quiet | ⟨o', stores', writes⟩
  · obtain ⟨c, r⟩ := e
    cases c <;> simp [Call.isQuiet, Call.stores?] at quiet stores
  · obtain rfl := Option.some.inj (stores.symm.trans stores')
    exact writes.2 (congrArg Address.name here)

/-- If whatever is stored is whole, then what stands there stays whole. -/
theorem holdsAuthority_after {pem : PemReader} {a : Address} {e : Event} {old : Option Object}
    (stores : ∀ o, e.storedAt? a = some o → o.HoldsAuthority pem)
    (whole : ∀ o, old = some o → o.HoldsAuthority pem) :
    ∀ o, (Part.objectAt a).after old e = some o → o.HoldsAuthority pem := by
  intro o now
  cases stored : e.storedAt? a with
  | none =>
    rw [Part.objectAt_ignores stored] at now
    exact whole o now
  | some new =>
    obtain ⟨s, ca, rfl, loaded, hkey⟩ := stores new stored
    rw [Part.objectAt_after_of_stored stored, Object.keepingStatus_secret] at now
    obtain rfl := Option.some.inj now
    exact ⟨s, ca, rfl, loaded, hkey⟩

/-- What the controller's part calls: beside the calls of its objects, it talks to the management
interface of its namespace and replaces pods there. -/
def ControllerCalls (cp : ControlPlane) (c : Call) : Prop :=
  c.Within (IsPartOf cp controllerNames) ∨
    ∃ ns, cp.metadata.namespaceName = some ns ∧
      (c.isAccountAt (internalUrl ns) ∨ ∃ name, c = .restart ns name)

theorem waitUntilAvailable_reach {W : Object → Prop} (url : String) (limit : RetryLimit) :
    (Bootstrap.waitUntilAvailable url limit).Only (Call.Within W) := by
  unfold Bootstrap.waitUntilAvailable
  generalize limit.attempts = remaining
  induction remaining with
  | zero => exact .throw _
  | succ n ih =>
    refine .bind (.ofProgram (Program.Only.perform (.inl rfl))) fun r => ?_
    cases r with
    | ok status => exact .pure _
    | error e =>
      dsimp only
      split
      · split
        · exact .bind ⟨.inl rfl, fun _ => trivial⟩ fun _ => ih
        · exact ih
      · exact .throw _

theorem verifyPullSecret_reach {W : Object → Prop} (ns name : String) :
    (verifyPullSecret ns name).Only (Call.Within W) := by
  refine .bind (only_getSecret ns name) fun found => ?_
  cases found with
  | none => exact .throw _
  | some secret =>
    dsimp only
    split
    · exact .pure _
    · exact .throw _

theorem syncController_reach (settings : Setup) {target : Target} {cp : ControlPlane}
    (hns : cp.metadata.namespaceName = some target.namespaceName) :
    (syncController settings target cp).Only (Call.Within (IsPartOf cp ownNames)) := by
  refine .bind (target.only_syncIdentity _ ?_ ?_ ?_) fun _ => .bind (only_getSecret _ _) fun found =>
    .bind (only_sync .apply ?_) fun _ => .bind (target.only_syncService _ ?_) fun _ => ?_
  rotate_right
  · dsimp only
    split
    · refine .bind (only_sync .apply ?_) fun _ => .bind (only_sync .apply ?_) fun _ => .pure _
      all_goals simp [IsPartOf, ownNames, Controller.component, hns]
    · refine .bind (only_sync .apply ?_) fun _ => .pure _
      simp [IsPartOf, ownNames, Controller.component, hns]
  rotate_right
  · intro s hs
    cases hs
    simp [IsPartOf, ownNames, hns]
  all_goals simp [IsPartOf, ownNames, Controller.component, hns]

theorem within_controllerNames {cp : ControlPlane} {c : Call}
    (h : c.Within (IsPartOf cp ownNames)) : c.Within (IsPartOf cp controllerNames) :=
  h.imp_right fun ⟨o, stores, hns, hname⟩ => ⟨o, stores, hns, List.mem_cons_of_mem _ hname⟩

section Bootstrap

variable {target : Target} {cp : ControlPlane} (url email password : String)

theorem viaApi_reach {α : Type} {P : Call → Prop} {p : Program (Except ApiError α)}
    (h : p.Only P) : (Attempt.viaApi p).Only P := by
  refine .bind (.ofProgram h) fun r => ?_
  cases r with
  | ok a => exact .pure _
  | error e => exact .throw _

theorem logIn_reach : (Bootstrap.logIn url email password).Only (·.isAccountAt url) :=
  .bind (viaApi_reach (Program.Only.perform (by simp [Call.isAccountAt]))) fun _ => .pure _

theorem ensureUser_reach (user : ControlPlane.User) :
    (Bootstrap.ensureUser url user).Only (·.isAccountAt url) := by
  refine .bind (.ofProgram (Program.Only.perform (by simp [Call.isAccountAt]))) fun r => ?_
  cases r with
  | ok u => exact logIn_reach ..
  | error e =>
    dsimp only
    split
    · exact logIn_reach ..
    · exact .throw _

theorem rotatePassword_reach (old new : String) :
    (Bootstrap.rotatePassword url email old new).Only (·.isAccountAt url) := by
  refine .bind (logIn_reach ..) fun session => .bind ?_ fun _ => logIn_reach ..
  unfold Bootstrap.changePassword
  split
  · exact viaApi_reach (Program.Only.perform (by simp [Call.isAccountAt]))
  · exact .pure _

/-- What opening a session calls: it talks to the interface, replaces the credentials of the port
manager by the declared ones, and restarts its pods. -/
def SessionCalls (target : Target) (user : ControlPlane.User) (c : Call) : Prop :=
  c.Within (· = (Object.secret (PortManager.credentialsSecret target.namespaceName user.email
    user.password)).ownedBy target.owner) ∨
    c.isAccountAt (internalUrl target.namespaceName) ∨
    c = .restart target.namespaceName PortManager.name

theorem openSession_reach (target : Target) (user : ControlPlane.User) :
    (openSession target (internalUrl target.namespaceName) user).Only
      (SessionCalls target user) := by
  refine .tryCatch ((ensureUser_reach ..).mono fun _ h => .inr (.inl h)) fun failure => ?_
  split
  · refine .bind ?_ fun previous => .bind ((rotatePassword_reach ..).mono fun _ h => .inr (.inl h))
      fun session => .bind ((only_sync .apply (by rfl)).mono fun _ => .inl) fun _ =>
        .bind ((only_get _).mono fun _ => .inl) fun deployment => ?_
    · refine .bind ((only_getSecret _ _).mono fun _ => .inl) fun found => ?_
      cases found with
      | none => exact .throw _
      | some secret =>
        dsimp only
        split
        · exact .throw _
        · exact .pure _
    · split
      · exact .bind (Program.Only.perform (.inr (.inr rfl))) fun _ => .pure _
      · exact .pure _
  · exact .throw _

theorem bootstrapController_reach (settings : Setup)
    (hns : cp.metadata.namespaceName = some target.namespaceName) :
    (bootstrapController settings target cp).Only (ControllerCalls cp) := by
  have session {c : Call} (h : SessionCalls target cp.spec.user c) : ControllerCalls cp c := by
    rcases h with (quiet | ⟨o, stores, rfl⟩) | account | restart
    · exact .inl (.inl quiet)
    · exact .inl (.inr ⟨_, stores, by simp [hns], by simp [controllerNames]⟩)
    · exact .inr ⟨_, hns, .inl account⟩
    · exact .inr ⟨_, hns, .inr ⟨_, restart⟩⟩
  have within {α : Type} {x : Attempt α} (h : x.Only (Call.Within (IsPartOf cp controllerNames))) :
      x.Only (ControllerCalls cp) := h.mono fun _ => .inl
  refine .bind (Program.Only.perform (.inl (.inl rfl))) fun _ =>
    .bind (within (waitUntilAvailable_reach ..)) fun _ =>
      .bind ((openSession_reach target cp.spec.user).mono fun _ => session) fun session =>
        .bind (within (routerAddress_reach ..)) fun address => ?_
  cases address with
  | none => exact .pure _
  | some host =>
    refine .bind (viaApi_reach (Program.Only.perform ?_)) fun _ => ?_
    · exact .inr ⟨_, hns, .inl (by simp [Call.isAccountAt])⟩
    · split
      · exact .pure _
      · refine .bind (within (only_discoverAddress ..)) fun address => ?_
        cases address with
        | none => exact .pure _
        | some address =>
          refine .tryCatch (.bind (within ?_) fun _ => .pure _) fun _ => .pure _
          exact .bind (Program.Only.perform (.inl rfl)) fun _ => waitUntilAvailable_reach ..

end Bootstrap

theorem driveController_reach (settings : Setup) {target : Target} {cp : ControlPlane}
    (hns : cp.metadata.namespaceName = some target.namespaceName) :
    (driveController settings target cp).Only (ControllerCalls cp) := by
  have rest := bootstrapController_reach settings hns
  refine .bind ((syncController_reach settings hns).mono fun _ h => .inl (within_controllerNames h))
    fun result => ?_
  dsimp only
  split
  · exact .pure _
  · split
    · exact .bind (Program.Only.perform (.inr ⟨_, hns, .inr ⟨_, rfl⟩⟩)) fun _ => rest
    · exact rest

theorem controller_reach (settings : Setup) (cp : ControlPlane) :
    (controller settings cp).Only (ControllerCalls cp) := by
  refine only_settle (only_ofExcept_bind fun target h => ?_)
  have drive := driveController_reach settings (Target.namespaceName_of h).1
  dsimp only
  split
  · exact .bind ((verifyPullSecret_reach _ _).mono fun _ => .inl) fun _ => drive
  · exact drive

end Reconcile

end EdgePlane
