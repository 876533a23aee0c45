import EdgePlane.Proofs.Convergence
import EdgePlane.Proofs.Serving

/-!
# Progress of the parts

A scene is amenable to a control plane if nothing in it is in the way: the secret that images are pulled
with is there, a kept authority can be loaded, and the management interface serves and gives the declared
user a session. From any such scene the parts of a pass get on, whichever of their objects are there and
whatever these say. What they leave is amenable again, and the controller is deployed. If it was before, and
if the addresses from outside are known, then all of them have a clean outcome.
-/

namespace EdgePlane

open Kubernetes Management Simulation

/-- Whether certificates can be issued for an address: it is an address of the network, or in ASCII. -/
def IsNameable (address : String) : Prop :=
  address ≠ "" ∧ ((Net.IpAddress.parse? address).isSome ∨ ∀ c ∈ address.toList, c.toNat < 128)

theorem IsNameable.alternativeName {address : String} (h : IsNameable address) :
    ∃ name, KeyedCertificate.alternativeName address = .ok name := by
  obtain ⟨notEmpty, named⟩ := h
  have notEmpty : address.isEmpty = false := by simpa using notEmpty
  unfold KeyedCertificate.alternativeName
  rw [notEmpty]
  cases parsed : Net.IpAddress.parse? address with
  | some ip => exact ⟨_, rfl⟩
  | none =>
    have ascii : address.toList.all (·.toNat < 128) = true := by simpa [parsed] using named
    exact ⟨.dns address, by simp [ascii]⟩

namespace Reconcile

/-- The secrets that every pass replaces. -/
def replacedSecrets : List String := Controller.databaseSecretName :: Router.leafSecretNames

/-- The secrets that the operator writes. -/
def operatorSecrets : List String :=
  Router.authoritySecretName :: PortManager.credentialsSecretName :: replacedSecrets

/-- The secret in a place. -/
def secretAt? (s : Scene) (ns name : String) : Option Secret :=
  (s.objects ⟨.secret, ns, name⟩).bind (·.secret?)

/-- Whether nothing in a scene is in the way of a control plane. -/
structure Amenable (pem : PemReader) (cp : ControlPlane) (ns : String) (s : Scene) : Prop where
  /-- Images are pulled with no secret, or with one that is there and is not one of the operator's. -/
  pull : cp.spec.images.pullSecret = "" ∨ cp.spec.images.pullSecret ∉ operatorSecrets ∧
    ∃ secret, secretAt? s ns cp.spec.images.pullSecret = some secret ∧
      secret.type = some pullSecretType
  authority : ∀ secret, secretAt? s ns Router.authoritySecretName = some secret →
    ∃ ca, KeyedCertificate.ofSecret pem secret = .ok ca
  serves : (s.apis (internalUrl ns)).Serves
  welcomes : Welcomes cp.spec.user (s.objects (credentialsAddress ns)) (s.apis (internalUrl ns)).users

/-- Whether the addresses from outside are known in a scene: that of the router, for which certificates
can be issued, and that of a controller behind a load balancer, at which the interface serves. -/
structure Exposed (cp : ControlPlane) (ns : String) (s : Scene) : Prop where
  router : ∃ address, knownAddress? cp (s.objects ⟨.service, ns, Router.name⟩) = some address ∧
    IsNameable address
  controller : cp.spec.services.controller.isLoadBalancer →
    ∃ address, externalAddress? (s.objects ⟨.service, ns, Controller.name⟩) = some address ∧
      (s.apis (Net.apiBaseUrl address Controller.apiPort)).Serves

/-- Whether the controller is deployed. -/
def IsDeployed (ns : String) (s : Scene) : Prop := (s.objects ⟨.deployment, ns, Controller.name⟩).isSome

/-- What the parts keep from one scene to another. -/
structure Keeps (pem : PemReader) (cp : ControlPlane) (ns : String) (s s' : Scene) : Prop where
  amenable : Amenable pem cp ns s → Amenable pem cp ns s'
  exposed : Exposed cp ns s → Exposed cp ns s'
  stands : ∀ a, (s.objects a).isSome → (s'.objects a).isSome
  declared : s'.declared = s.declared

variable {pem : PemReader} {cp : ControlPlane} {ns : String} {s s' s'' : Scene}

theorem Keeps.refl (pem : PemReader) (cp : ControlPlane) (ns : String) (s : Scene) : Keeps pem cp ns s s :=
  ⟨id, id, fun _ => id, rfl⟩

theorem Keeps.trans (h : Keeps pem cp ns s s') (h' : Keeps pem cp ns s' s'') : Keeps pem cp ns s s'' :=
  ⟨h'.amenable ∘ h.amenable, h'.exposed ∘ h.exposed, fun a => h'.stands a ∘ h.stands a,
    h'.declared.trans h.declared⟩

theorem knownAddress?_congr {o o' : Option Object} (h : externalAddress? o = externalAddress? o') :
    knownAddress? cp o = knownAddress? cp o' := by
  rw [knownAddress?, knownAddress?, h]

/-- Where the same is known of the services and the interfaces still serve, the addresses stay known. -/
theorem Exposed.congr (h : Exposed cp ns s)
    (services : ∀ name, externalAddress? (s'.objects ⟨.service, ns, name⟩) =
      externalAddress? (s.objects ⟨.service, ns, name⟩))
    (serves : ∀ url, (s.apis url).Serves → (s'.apis url).Serves) : Exposed cp ns s' where
  router := by
    rw [knownAddress?_congr (services Router.name)]
    exact h.router
  controller balanced := by
    obtain ⟨address, known, served⟩ := h.controller balanced
    exact ⟨address, (services Controller.name).trans known, serves _ served⟩

section Put

variable {o : Object} {owner : OwnerReference}

/-- A service that reports nothing does not change what is known of its load balancer. -/
theorem externalAddress?_put (service : ∀ v, o = .service v → v.status = none) (name : String) :
    externalAddress? ((s.put o.address ((o.ownedBy owner).keepingStatus (s.objects o.address))).objects
      ⟨.service, ns, name⟩) = externalAddress? (s.objects ⟨.service, ns, name⟩) := by
  by_cases here : o.address = ⟨.service, ns, name⟩
  · obtain ⟨v, rfl⟩ : ∃ v, o = .service v := by
      have kind := congrArg Address.kind here
      cases o <;> first | exact ⟨_, rfl⟩ | cases kind
    rw [here, Scene.objects_put_self]
    exact externalAddress?_keepingStatus
      (s := { v with metadata := { v.metadata with ownerReferences := some [owner] } }) (service v rfl) _
  · rw [Scene.objects_put_of_ne (Ne.symm here)]

theorem isSome_put {a b : Address} (h : (s.objects b).isSome) : ((s.put a o).objects b).isSome := by
  by_cases here : b = a
  · rw [here, Scene.objects_put_self]
    rfl
  · rwa [Scene.objects_put_of_ne here]

/-- An object that is stored is not in the way, unless it is an authority or credentials that are. -/
theorem Amenable.put {a : Address} (h : Amenable pem cp ns s)
    (written : a.kind = .secret → a.name ∈ operatorSecrets)
    (authority : a = ⟨.secret, ns, Router.authoritySecretName⟩ → ∀ secret, o.secret? = some secret →
      ∃ ca, KeyedCertificate.ofSecret pem secret = .ok ca)
    (credentials : a = credentialsAddress ns →
      Welcomes cp.spec.user (some o) (s.apis (internalUrl ns)).users) :
    Amenable pem cp ns (s.put a o) where
  pull := h.pull.imp_right fun ⟨foreign, secret, found, type⟩ => by
    refine ⟨foreign, secret, ?_, type⟩
    rw [secretAt?, Scene.objects_put_of_ne]
    · exact found
    · rintro rfl
      exact foreign (written rfl)
  authority secret found := by
    by_cases here : a = ⟨.secret, ns, Router.authoritySecretName⟩
    · rw [here, secretAt?, Scene.objects_put_self] at found
      exact authority here secret found
    · rw [secretAt?, Scene.objects_put_of_ne (Ne.symm here)] at found
      exact h.authority secret found
  serves := h.serves
  welcomes := by
    by_cases here : a = credentialsAddress ns
    · rw [here, Scene.objects_put_self]
      exact credentials here
    · rw [Scene.objects_put_of_ne (Ne.symm here)]
      exact h.welcomes

/-- Storing what every pass replaces keeps a scene as good as it was. -/
theorem keeps_put (replaced : o.kind = .secret → o.name ∈ replacedSecrets)
    (service : ∀ v, o = .service v → v.status = none) :
    Keeps pem cp ns s (s.put o.address ((o.ownedBy owner).keepingStatus (s.objects o.address))) where
  amenable h := by
    have apart {name : String} (kept : name ∉ replacedSecrets) : o.address ≠ ⟨.secret, ns, name⟩ := by
      intro here
      obtain rfl : o.name = name := congrArg Address.name here
      exact kept (replaced (congrArg Address.kind here))
    exact h.put (fun kind => List.mem_cons_of_mem _ (List.mem_cons_of_mem _ (replaced kind)))
      (fun here => absurd here (apart (by decide))) fun here => absurd here (apart (by decide))
  exposed h := h.congr (externalAddress?_put service) fun _ => id
  stands _ := isSome_put
  declared := rfl

/-- Storing a secret keeps a scene as good as it was if it is not in the way. -/
theorem keeps_put_secret {name : String} {o : Object}
    (amenable : Amenable pem cp ns s → Amenable pem cp ns (s.put ⟨.secret, ns, name⟩ o)) :
    Keeps pem cp ns s (s.put ⟨.secret, ns, name⟩ o) where
  amenable := amenable
  exposed h := h.congr (fun _ => by rw [Scene.objects_put_of_ne (by simp)]) fun _ => id
  stands _ := isSome_put
  declared := rfl

theorem authority_ne_credentials (ns : String) :
    (⟨.secret, ns, Router.authoritySecretName⟩ : Address) ≠ credentialsAddress ns := by
  intro here
  have names : Router.authoritySecretName = PortManager.credentialsSecretName :=
    congrArg Address.name here
  exact absurd names (by decide)

/-- Storing an authority that can be loaded keeps a scene as good as it was. -/
theorem keeps_put_authority {secret : Secret}
    (whole : ∃ ca, KeyedCertificate.ofSecret pem secret = .ok ca) :
    Keeps pem cp ns s (s.put ⟨.secret, ns, Router.authoritySecretName⟩ (.secret secret)) := by
  refine keeps_put_secret fun amenable => amenable.put (fun _ => List.mem_cons_self) ?_ fun here => ?_
  · rintro - _ ⟨⟩
    exact whole
  · exact absurd here (authority_ne_credentials ns)

/-- Storing credentials keeps a scene as good as it was, unless the user is not welcome with them. -/
theorem keeps_put_credentials {o : Object} (welcomes : Amenable pem cp ns s →
      Welcomes cp.spec.user (some o) (s.apis (internalUrl ns)).users) :
    Keeps pem cp ns s (s.put (credentialsAddress ns) o) := by
  refine keeps_put_secret fun amenable => amenable.put (fun _ => ?_) (fun here => ?_) fun _ =>
    welcomes amenable
  · exact List.mem_cons_of_mem _ List.mem_cons_self
  · exact absurd here.symm (authority_ne_credentials ns)

end Put

/-- Talking to an interface keeps a scene as good as it was, unless it sees to it that the user is not
welcome. -/
theorem keeps_talked {url : String} (h : s.Talked url s')
    (users : url = internalUrl ns → Welcomes cp.spec.user (s.objects (credentialsAddress ns))
      (s.apis url).users → Welcomes cp.spec.user (s.objects (credentialsAddress ns))
        (s'.apis url).users) : Keeps pem cp ns s s' where
  amenable before := by
    refine ⟨?_, ?_, h.serves_all _ before.serves, ?_⟩
    · rw [secretAt?, h.objects]
      exact before.pull
    · rw [secretAt?, h.objects]
      exact before.authority
    · rw [h.objects]
      by_cases here : url = internalUrl ns
      · subst here
        exact users rfl before.welcomes
      · rw [h.apis_of_ne (Ne.symm here)]
        exact before.welcomes
  exposed before := before.congr (fun name => by rw [h.objects]) h.serves_all
  stands a := by
    rw [h.objects]
    exact id
  declared := h.declared

variable {α β : Type}

/-- Whether an attempt gets on in an amenable scene: it ends as `Q` says, in a scene that is as good. -/
def Progresses (pem : PemReader) (cp : ControlPlane) (ns : String) (Q : Except Failure α → Scene → Prop)
    (x : Attempt α) (s : Scene) : Prop :=
  Amenable pem cp ns s → x.Finishes (fun r s' => Keeps pem cp ns s s' ∧ Q r s') s

/-- Whether an attempt gets on and succeeds, with a result and a scene of which `P` holds. -/
def Fares (pem : PemReader) (cp : ControlPlane) (ns : String) (P : α → Scene → Prop) (x : Attempt α)
    (s : Scene) : Prop :=
  Progresses pem cp ns (fun r s' => ∃ a, r = .ok a ∧ P a s') x s

section Laws

variable {Q : Except Failure α → Scene → Prop} {P : α → Scene → Prop}
  {R : Except Failure β → Scene → Prop} {x : Attempt α} {f : α → Attempt β}

theorem Progresses.bind (hx : Progresses pem cp ns Q x s)
    (done : ∀ a s', Keeps pem cp ns s s' → Q (.ok a) s' → Progresses pem cp ns R (f a) s')
    (failed : ∀ e s', Q (.error e) s' → R (.error e) s') : Progresses pem cp ns R (x >>= f) s := by
  intro amenable
  refine (hx amenable).bind (fun a s₁ ⟨keeps, h⟩ => ?_) fun e s₁ ⟨keeps, h⟩ => ⟨keeps, failed e s₁ h⟩
  exact (done a s₁ keeps h (keeps.amenable amenable)).mono fun r s₂ ⟨keeps', h'⟩ =>
    ⟨keeps.trans keeps', h'⟩

theorem Fares.bind (hx : Fares pem cp ns P x s)
    (hf : ∀ a s', Keeps pem cp ns s s' → P a s' → Progresses pem cp ns R (f a) s') :
    Progresses pem cp ns R (x >>= f) s := by
  refine Progresses.bind hx ?_ ?_
  · rintro a s' keeps ⟨_, ⟨⟩, h⟩
    exact hf a s' keeps h
  · rintro e s' ⟨_, ⟨⟩, -⟩

theorem Progresses.pure {a : β} (h : R (.ok a) s) : Progresses pem cp ns R (Pure.pure a) s :=
  fun _ => ⟨.refl .., h⟩

theorem Progresses.mono {Q' : Except Failure α → Scene → Prop} (hx : Progresses pem cp ns Q x s)
    (h : ∀ r s', Keeps pem cp ns s s' → Q r s' → Q' r s') : Progresses pem cp ns Q' x s :=
  fun amenable => (hx amenable).mono fun r s' ⟨keeps, hQ⟩ => ⟨keeps, h r s' keeps hQ⟩

/-- What changes nothing gets on. -/
theorem fares_of_unchanged (hx : x.Succeeds P s) (same : ∀ a s', P a s' → s' = s) :
    Fares pem cp ns P x s := by
  intro _
  refine Attempt.Finishes.mono hx ?_
  rintro _ s' ⟨a, rfl, h⟩
  obtain rfl := same a s' h
  exact ⟨.refl .., a, rfl, h⟩

end Laws

section Objects

variable {o : Object} {target : Target}

theorem fares_syncObject (replaced : o.kind = .secret → o.name ∈ replacedSecrets)
    (service : ∀ v, o = .service v → v.status = none) :
    Fares pem cp ns (fun r s' => r.existed = (s.objects o.address).isSome ∧ (s'.objects o.address).isSome)
      (target.syncObject o) s := by
  intro _
  refine Attempt.Finishes.mono Attempt.succeeds_sync_apply ?_
  rintro _ _ ⟨r, rfl, existed, rfl⟩
  exact ⟨keeps_put replaced service, r, rfl, existed, by rw [Scene.objects_put_self]; rfl⟩

theorem fares_syncIdentity (component : Component) :
    Fares pem cp ns (fun _ _ => True) (target.syncIdentity component) s := by
  refine (fares_syncObject (by simp [Object.kind]) (by simp)).bind fun _ s₁ _ _ => ?_
  split
  · refine (fares_syncObject (by simp [Object.kind]) (by simp)).bind fun _ s₂ _ _ => ?_
    refine (fares_syncObject (by simp [Object.kind]) (by simp)).bind fun _ s₃ _ _ => ?_
    exact .pure ⟨(), rfl, trivial⟩
  · exact .pure ⟨(), rfl, trivial⟩

theorem fares_syncService (component : Component) :
    Fares pem cp ns (fun _ _ => True) (target.syncService component) s := by
  unfold Target.syncService
  split
  · rename_i v hv
    have status : v.status = none := by
      obtain ⟨d, -, rfl⟩ := Option.map_eq_some_iff.1 hv
      rfl
    refine (fares_syncObject (by simp [Object.kind]) ?_).bind fun _ s₁ _ _ => .pure ⟨(), rfl, trivial⟩
    rintro _ ⟨⟩
    exact status
  · exact .pure ⟨(), rfl, trivial⟩

end Objects

theorem fares_getSecret (ns' name : String) : Fares pem cp ns
    (fun secret s' => secret = secretAt? s ns' name ∧ s' = s) (Attempt.getSecret ns' name) s :=
  fares_of_unchanged Attempt.succeeds_getSecret fun _ _ h => h.2

theorem fares_drawKey : Fares pem cp ns (fun _ s' => s' = s) Attempt.drawKey s :=
  fares_of_unchanged Attempt.succeeds_drawKey fun _ _ h => h

theorem fares_connect (url : String) : Fares pem cp ns (fun _ s' => s' = s) (Attempt.connect url) s :=
  fares_of_unchanged (Attempt.succeeds_connect url) fun _ _ h => h

theorem fares_discoverAddress (ns' name : String) : Fares pem cp ns
    (fun address s' => address = externalAddress? (s.objects ⟨.service, ns', name⟩) ∧ s' = s)
    (Attempt.discoverAddress ns' name) s :=
  fares_of_unchanged Attempt.succeeds_discoverAddress fun _ _ h => h.2

section Router

variable {settings : Setup} {target : Target} {ca : KeyedCertificate} {address : String}

/-- The lookup of the router's address finds the one that is known. -/
theorem progresses_routerAddress : Progresses pem cp ns
    (fun r s' => s' = s ∧ (Exposed cp ns s → ∃ address, r = .ok (some address) ∧ IsNameable address))
    (routerAddress cp ns) s := by
  unfold routerAddress
  dsimp only
  split
  · rename_i balanced
    intro _
    refine Attempt.Finishes.mono Attempt.succeeds_discoverAddress ?_
    rintro _ s ⟨address, rfl, rfl, rfl⟩
    refine ⟨.refl .., rfl, fun exposed => ?_⟩
    obtain ⟨address, known, nameable⟩ := exposed.router
    rw [knownAddress?, if_pos balanced] at known
    exact ⟨address, by rw [known], nameable⟩
  · rename_i declared
    split
    · rename_i empty
      intro _
      refine Attempt.Finishes.throw ⟨.refl .., rfl, fun exposed => ?_⟩
      obtain ⟨address, known, notEmpty, -⟩ := exposed.router
      rw [knownAddress?, if_neg declared, Option.some.injEq] at known
      exact absurd (known ▸ String.isEmpty_iff.1 empty) notEmpty
    · refine .pure ⟨rfl, fun exposed => ?_⟩
      obtain ⟨address, known, nameable⟩ := exposed.router
      rw [knownAddress?, if_neg declared] at known
      exact ⟨address, by rw [known], nameable⟩

/-- What goes on once the router's address is found gets there if it is known from outside. -/
theorem progresses_of_routerAddress {f : Option String → Attempt β} {b waits : β} {E : Prop}
    (exposed : E → Exposed cp ns s) (none : f none = pure waits)
    (some : ∀ address, (E → IsNameable address) →
      Progresses pem cp ns (fun r _ => E → r = .ok b) (f (some address)) s) :
    Progresses pem cp ns (fun r _ => E → r = .ok b) (routerAddress cp ns >>= f) s := by
  refine progresses_routerAddress.bind ?_ ?_
  · rintro (_ | address) s - ⟨rfl, known⟩
    · rw [none]
      refine .pure fun e => ?_
      obtain ⟨address, ⟨⟩, -⟩ := known (exposed e)
    · refine some address fun e => ?_
      obtain ⟨_, ⟨⟩, nameable⟩ := known (exposed e)
      exact nameable
  · rintro _ _ ⟨-, known⟩ e
    obtain ⟨address, ⟨⟩, -⟩ := known (exposed e)

/-- The authority is stored where there was none. -/
theorem fares_syncAuthority (ca : KeyedCertificate) : Fares pem cp target.namespaceName (fun _ _ => True)
    (target.syncOnce
      (.secret (ca.authoritySecret Router.authoritySecretName target.namespaceName))) s := by
  intro _
  refine Attempt.Finishes.mono Attempt.succeeds_sync_createOnly ?_
  rintro _ _ ⟨r, rfl, ⟨-, rfl⟩ | ⟨-, rfl⟩⟩
  · exact ⟨keeps_put_authority ⟨ca, KeyedCertificate.ofSecret_authoritySecret ..⟩, r, rfl, trivial⟩
  · exact ⟨.refl .., r, rfl, trivial⟩

theorem fares_routerAuthority :
    Fares pem cp target.namespaceName (fun _ _ => True) (routerAuthority pem target) s := by
  refine (fares_getSecret _ _).bind ?_
  rintro _ s - ⟨rfl, rfl⟩
  split
  · rename_i secret found
    intro amenable
    obtain ⟨ca, loaded⟩ := amenable.authority secret found
    rw [loaded]
    exact ⟨.refl .., ca, rfl, trivial⟩
  · exact fares_drawKey.bind fun fresh s₁ _ _ =>
      (fares_syncAuthority _).bind fun _ s₂ _ _ => .pure ⟨_, rfl, trivial⟩

/-- Certificates are issued for an address that allows of it. -/
theorem progresses_syncLeaf {name : String} (leaf : name ∈ Router.leafSecretNames) :
    Progresses pem cp ns (fun r _ => IsNameable address → r = .ok ())
      (syncLeaf target ca address name) s := by
  refine Progresses.bind
    (Q := fun r _ => IsNameable address → ∃ alternative, r = .ok alternative) ?_ ?_ ?_
  · intro _
    refine ⟨.refl .., fun nameable => ?_⟩
    obtain ⟨alternative, named⟩ := nameable.alternativeName
    exact ⟨alternative, by rw [named]; rfl⟩
  · intro alternative s₁ _ _
    refine fares_drawKey.bind fun fresh s₂ _ _ => ?_
    refine (fares_syncObject ?_ (by simp)).bind fun _ s₃ _ _ => .pure fun _ => rfl
    exact fun _ => show name ∈ replacedSecrets from List.mem_cons_of_mem _ leaf
  · intro e s₁ named nameable
    obtain ⟨alternative, ⟨⟩⟩ := named nameable

theorem progresses_leaves {names : List String}
    (leaves : ∀ name ∈ names, name ∈ Router.leafSecretNames) :
    Progresses pem cp ns (fun r _ => IsNameable address → r = .ok ())
      (names.forM (syncLeaf target ca address)) s := by
  induction names generalizing s with
  | nil => exact .pure fun _ => rfl
  | cons name names ih =>
    exact (progresses_syncLeaf (leaves name (by simp))).bind
      (fun _ s₁ _ _ => ih fun name h => leaves name (by simp [h])) fun e s₁ named => named

theorem progresses_attemptRouter (htarget : Target.of cp = .ok target) :
    Progresses settings.pem cp target.namespaceName
      (fun r _ => Exposed cp target.namespaceName s → r = .ok .proceed)
      (attemptRouter settings cp) s := by
  rw [attemptRouter, htarget, Attempt.ofExcept_ok_bind]
  refine (fares_syncIdentity _).bind fun _ s₁ keeps₁ _ => ?_
  refine (fares_syncService _).bind fun _ s₂ keeps₂ _ => ?_
  refine progresses_of_routerAddress (fun exposed => keeps₂.exposed (keeps₁.exposed exposed)) rfl
    fun address nameable => ?_
  refine fares_routerAuthority.bind fun ca s₃ _ _ => ?_
  refine (progresses_leaves fun _ => id).bind (fun _ s₄ _ _ => ?_) fun e s₄ issued exposed => ?_
  · exact (fares_syncObject (by simp [Object.kind]) (by simp)).bind fun _ s₅ _ _ => .pure fun _ => rfl
  · cases issued (nameable exposed)

end Router

section Controller

variable {settings : Setup} {target : Target} {address : String}

theorem fares_verifyPullSecret (notEmpty : cp.spec.images.pullSecret ≠ "") :
    Fares pem cp ns (fun _ _ => True) (verifyPullSecret ns cp.spec.images.pullSecret) s := by
  refine (fares_getSecret _ _).bind ?_
  rintro _ s - ⟨rfl, rfl⟩ amenable
  obtain ⟨-, secret, found, type⟩ := amenable.pull.resolve_left notEmpty
  rw [found]
  dsimp only
  rw [if_pos type]
  exact ⟨.refl .., (), rfl, trivial⟩

/-- The controller's objects are brought about. It is known to have been deployed if it was. -/
theorem fares_syncController : Fares pem cp ns (fun r s' =>
    (IsDeployed target.namespaceName s → r.1 = true) ∧ IsDeployed target.namespaceName s')
    (syncController settings target cp) s := by
  refine (fares_syncIdentity _).bind fun _ s₁ keeps₁ _ => ?_
  refine (fares_getSecret _ _).bind fun found s₂ keeps₂ _ => ?_
  refine (fares_syncObject ?_ (by simp)).bind fun _ s₃ keeps₃ _ => ?_
  · exact fun _ => show Controller.databaseSecretName ∈ replacedSecrets from List.mem_cons_self
  refine (fares_syncService _).bind fun _ s₄ keeps₄ _ => ?_
  have deployed {s₅ : Scene} (keeps₅ : Keeps pem cp ns s₄ s₅) : Fares pem cp ns (fun r s' =>
      (IsDeployed target.namespaceName s → r.1 = true) ∧ IsDeployed target.namespaceName s')
      (do
        let deployment ← target.syncObject
          (.deployment ((Controller.component (controllerConfig settings cp)).deployment
            target.namespaceName))
        return (deployment.existed, found.any (·.isChangedBy (databaseSecretOf cp target.namespaceName))))
      s₅ := by
    refine (fares_syncObject (by simp [Object.kind]) (by simp)).bind fun r s₆ _ ⟨existed, there⟩ =>
      .pure ⟨_, rfl, fun stood => existed.trans ?_, there⟩
    exact (keeps₁.trans keeps₂ |>.trans keeps₃ |>.trans keeps₄ |>.trans keeps₅).stands _ stood
  dsimp only
  split
  · exact (fares_syncObject (by simp [Object.kind]) (by simp)).bind fun _ s₅ keeps₅ _ => deployed keeps₅
  · exact deployed (.refl ..)

/-- A question for the status keeps a scene as good as it was. It is answered if the interface serves. -/
theorem progresses_waitUntilAvailable {url : String} {limit : RetryLimit} (attempts : limit.attempts ≠ 0)
    (h : (s.apis url).Serves ∨ limit.attempts = 1) : Progresses pem cp ns
      (fun r _ => (s.apis url).Serves → r = .ok ()) (Bootstrap.waitUntilAvailable url limit) s := by
  obtain ⟨n, hn⟩ := Nat.exists_eq_succ_of_ne_zero attempts
  rw [Bootstrap.waitUntilAvailable, hn]
  intro _
  refine (Bootstrap.finishes_poll (h.imp_right fun one => by omega)).mono ?_
  rintro r s' ⟨talked, users, answered⟩
  exact ⟨keeps_talked talked fun _ => by rw [users]; exact id, answered⟩

theorem fares_waitUntilAvailable {limit : RetryLimit} (attempts : limit.attempts ≠ 0) :
    Fares pem cp ns (fun _ _ => True) (Bootstrap.waitUntilAvailable (internalUrl ns) limit) s :=
  fun amenable => (progresses_waitUntilAvailable attempts (.inl amenable.serves)).mono
    (fun _ _ _ answered => ⟨(), answered amenable.serves, trivial⟩) amenable

/-- The declared user gets a session. -/
theorem fares_openSession : Fares pem cp target.namespaceName
    (fun session s' => Bootstrap.LoggedIn (internalUrl target.namespaceName) cp.spec.user.email
      cp.spec.user.password.decode session s')
    (openSession target (internalUrl target.namespaceName) cp.spec.user) s := by
  intro amenable
  refine Attempt.Finishes.mono (succeeds_openSession amenable.serves amenable.welcomes) ?_
  rintro _ s' ⟨session, rfl, s₁, talked, login, moved⟩
  have keeps : Keeps pem cp target.namespaceName s s₁ := keeps_talked talked fun _ _ => .declared login.known
  rcases moved with rfl | rfl
  · exact ⟨keeps, session, rfl, login⟩
  · exact ⟨keeps.trans (keeps_put_credentials fun _ => .declared login.known), session, rfl,
      ⟨login.known, login.token⟩⟩

/-- The router is registered with a session. -/
theorem fares_registerRouter {session : Session} {email password : String}
    (login : Bootstrap.LoggedIn (internalUrl ns) email password session s) (router : DefaultRouter) :
    Fares pem cp ns (fun _ _ => True) (Bootstrap.registerRouter (internalUrl ns) session router) s := by
  intro amenable
  refine Attempt.Finishes.mono (Bootstrap.succeeds_registerRouter amenable.serves login router) ?_
  rintro _ s' ⟨u, rfl, talked, users⟩
  exact ⟨keeps_talked talked fun _ => by rw [users]; exact id, u, rfl, trivial⟩

/-- From outside the controller answers where its interface serves. -/
theorem progresses_probeExternal : Progresses pem cp ns
    (fun r _ => (s.apis (Net.apiBaseUrl address Controller.apiPort)).Serves → r = .ok ())
    (probeExternal address) s := by
  refine (fares_connect _).bind ?_
  rintro _ s - rfl
  exact progresses_waitUntilAvailable (by simp) (.inr rfl)

/-- A controller behind a load balancer is reached from outside. -/
theorem progresses_reachController (balanced : cp.spec.services.controller.isLoadBalancer) :
    Progresses pem cp ns (fun r _ => Exposed cp ns s → r = .ok .proceed) (do
      match ← Attempt.discoverAddress ns Controller.name with
      | none => return waiting settings
      | some address =>
        tryCatch (do probeExternal address; return .proceed) fun _ => return waiting settings) s := by
  refine (fares_discoverAddress _ _).bind ?_
  rintro _ s - ⟨rfl, rfl⟩
  cases found : externalAddress? (s.objects ⟨.service, ns, Controller.name⟩) with
  | none =>
    refine .pure fun exposed => ?_
    obtain ⟨address, known, -⟩ := exposed.controller balanced
    rw [found] at known
    cases known
  | some address =>
    intro amenable
    have served (exposed : Exposed cp ns s) :
        (s.apis (Net.apiBaseUrl address Controller.apiPort)).Serves := by
      obtain ⟨address', known, served⟩ := exposed.controller balanced
      obtain rfl := Option.some.inj (found.symm.trans known)
      exact served
    have probed : Progresses pem cp ns (fun r _ => Exposed cp ns s → r = .ok Outcome.proceed)
        (do probeExternal address; return .proceed) s :=
      progresses_probeExternal.bind (fun _ s₁ _ _ => .pure fun _ => rfl) fun e _ answered exposed => by
        cases answered (served exposed)
    refine Attempt.Finishes.tryCatch (probed amenable) (fun _ _ h => h) fun e s₁ ⟨keeps, reached⟩ => ?_
    exact .pure ⟨keeps, fun exposed => by cases reached exposed⟩

theorem progresses_bootstrapController (attempts : settings.retry.attempts ≠ 0) :
    Progresses pem cp target.namespaceName (fun r _ => Exposed cp target.namespaceName s → r = .ok .proceed)
      (bootstrapController settings target cp) s := by
  refine (fares_connect _).bind ?_
  rintro _ s - rfl
  refine (fares_waitUntilAvailable attempts).bind fun _ s₁ keeps₁ _ => ?_
  refine fares_openSession.bind fun session s₂ keeps₂ login => ?_
  refine progresses_of_routerAddress (fun exposed => keeps₂.exposed (keeps₁.exposed exposed)) rfl
    fun host _ => ?_
  refine (fares_registerRouter login _).bind fun _ s₃ keeps₃ _ => ?_
  split
  · exact .pure fun _ => rfl
  · rename_i balanced
    exact (progresses_reachController (by simpa using balanced)).mono fun r _ _ reached exposed =>
      reached (keeps₃.exposed (keeps₂.exposed (keeps₁.exposed exposed)))

theorem progresses_driveController (attempts : settings.retry.attempts ≠ 0) :
    Progresses pem cp target.namespaceName (fun r s' => IsDeployed target.namespaceName s' ∧
        (Exposed cp target.namespaceName s → IsDeployed target.namespaceName s → r = .ok .proceed))
      (driveController settings target cp) s := by
  refine fares_syncController.bind ?_
  rintro ⟨existed, changed⟩ s₁ keeps₁ ⟨stood, there⟩
  have bootstraps : Progresses pem cp target.namespaceName (fun r s' => IsDeployed target.namespaceName s' ∧
      (Exposed cp target.namespaceName s → IsDeployed target.namespaceName s → r = .ok .proceed))
      (bootstrapController settings target cp) s₁ :=
    (progresses_bootstrapController attempts).mono fun r s₂ keeps₂ reached =>
      ⟨keeps₂.stands _ there, fun exposed _ => reached (keeps₁.exposed exposed)⟩
  cases existed with
  | false => exact .pure ⟨there, fun _ deployed => absurd (stood deployed) Bool.false_ne_true⟩
  | true =>
    cases changed with
    | false => exact bootstraps
    | true =>
      refine (fares_of_unchanged (Attempt.succeeds_restart there) fun _ _ h => h).bind ?_
      rintro _ _ - rfl
      exact bootstraps

theorem progresses_attemptController (attempts : settings.retry.attempts ≠ 0)
    (htarget : Target.of cp = .ok target) :
    Progresses pem cp target.namespaceName (fun r s' => IsDeployed target.namespaceName s' ∧
        (Exposed cp target.namespaceName s → IsDeployed target.namespaceName s → r = .ok .proceed))
      (attemptController settings cp) s := by
  rw [attemptController, htarget, Attempt.ofExcept_ok_bind]
  dsimp only
  split
  · rename_i named
    refine (fares_verifyPullSecret (by simpa using named)).bind fun _ s₁ keeps₁ _ => ?_
    exact (progresses_driveController attempts).mono fun r s₂ _ ⟨deployed, reached⟩ =>
      ⟨deployed, fun exposed stood => reached (keeps₁.exposed exposed) (keeps₁.stands _ stood)⟩
  · exact progresses_driveController attempts

end Controller

section PortManager

variable {settings : Setup} {target : Target}

/-- The credentials are stored where there were none. Then the user did not have the password that they
held. -/
theorem fares_syncCredentials : Fares pem cp target.namespaceName (fun _ _ => True)
    (target.syncOnce (credentialsOf target cp.spec.user)) s := by
  intro _
  refine Attempt.Finishes.mono Attempt.succeeds_sync_createOnly ?_
  rintro _ _ ⟨r, rfl, ⟨missing, rfl⟩ | ⟨-, rfl⟩⟩
  · have missing : s.objects (credentialsAddress target.namespaceName) = none := missing
    refine ⟨keeps_put_credentials fun amenable => ?_, r, rfl, trivial⟩
    cases amenable.welcomes with
    | unknown absent => exact .unknown absent
    | declared known => exact .declared known
    | held encoded stored =>
      rw [missing] at stored
      cases stored
  · exact ⟨.refl .., r, rfl, trivial⟩

theorem fares_attemptPortManager (htarget : Target.of cp = .ok target) :
    Fares pem cp target.namespaceName (fun o _ => o = .proceed) (attemptPortManager settings cp) s := by
  rw [attemptPortManager, htarget, Attempt.ofExcept_ok_bind]
  refine (fares_syncIdentity _).bind fun _ s₁ _ _ => ?_
  refine fares_syncCredentials.bind fun _ s₂ _ _ => ?_
  exact (fares_syncObject (by simp [Object.kind]) (by simp)).bind fun _ s₃ _ _ => .pure ⟨_, rfl, rfl⟩

end PortManager

end Reconcile

end EdgePlane
