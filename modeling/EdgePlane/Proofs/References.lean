import EdgePlane.Proofs.ControllerTrace
import EdgePlane.Proofs.Overlap
import EdgePlane.Proofs.Store
import EdgePlane.Proofs.Underway

/-!
# References between objects

Deployments refer to the account of their pods, to keys of secrets, to secrets and claims behind volumes,
and to volumes; role bindings refer to a role and an account. A part of a pass stores an object only after
it has seen all that the object refers to, and nothing is ever deleted, so no reference ever dangles.
-/

namespace EdgePlane

open Kubernetes

/-- What can be referred to: objects by their addresses, and the keys of secrets. -/
structure Referents where
  Present : Address → Prop
  HasKey : Address → String → Prop

/-- Whether all that can be referred to in a namespace can be referred to elsewhere, too. -/
structure Referents.LeIn (ns : String) (R R' : Referents) : Prop where
  present : ∀ {a}, a.namespaceName = ns → R.Present a → R'.Present a
  hasKey : ∀ {a key}, a.namespaceName = ns → R.HasKey a key → R'.HasKey a key

namespace Kubernetes

/-- Whether a secret has an entry for a key. -/
def Secret.HasKey (s : Secret) (key : String) : Prop := (s.data? key).isSome ∨ (s.stringData? key).isSome

/-- The key of a secret that the value of a variable comes from. -/
def EnvVariable.secretKeyRef? (v : EnvVariable) : Option SecretKeyRef := v.valueFrom.bind (·.secretKeyRef)

@[simp] theorem EnvVariable.secretKeyRef?_fixed (name value : String) :
    (fixed name value).secretKeyRef? = none := rfl

@[simp] theorem EnvVariable.secretKeyRef?_ofField (name path : String) :
    (ofField name path).secretKeyRef? = none := rfl

@[simp] theorem EnvVariable.secretKeyRef?_ofSecret (name secret key : String) :
    (ofSecret name secret key).secretKeyRef? = some { name := secret, key } := rfl

/-- Whether all is there that pods in a namespace refer to. -/
structure PodSpec.Resolves (ns : String) (R : Referents) (pod : PodSpec) : Prop where
  account : ∃ name, pod.serviceAccountName = some name ∧ R.Present ⟨.serviceAccount, ns, name⟩
  keys : ∀ c ∈ pod.containers, ∀ v ∈ c.env.getD [], ∀ ref, v.secretKeyRef? = some ref →
    R.HasKey ⟨.secret, ns, ref.name⟩ ref.key
  secrets : ∀ v ∈ pod.volumes.getD [], ∀ secret, v.secret = some secret →
    ∃ name, secret.secretName = some name ∧ R.Present ⟨.secret, ns, name⟩
  claims : ∀ v ∈ pod.volumes.getD [], ∀ claim, v.persistentVolumeClaim = some claim →
    R.Present ⟨.volumeClaim, ns, claim.claimName⟩
  mounts : ∀ c ∈ pod.containers, ∀ m ∈ c.volumeMounts.getD [], ∃ v ∈ pod.volumes.getD [], v.name = m.name

/-- Whether the role and the account are there that a role binding in a namespace refers to. -/
structure RoleBinding.Resolves (ns : String) (R : Referents) (binding : RoleBinding) : Prop where
  isRole : binding.roleRef.kind = Kind.role.name
  role : R.Present ⟨.role, ns, binding.roleRef.name⟩
  account : ∃ subject, binding.subjects = some [subject] ∧ subject.kind = Kind.serviceAccount.name ∧
    subject.namespaceName = some ns ∧ R.Present ⟨.serviceAccount, ns, subject.name⟩

/-- Whether all is there that an object refers to. -/
def Object.Resolves (R : Referents) : Object → Prop
  | .deployment d => ∃ pod, d.spec.bind (·.template.spec) = some pod ∧
      pod.Resolves (d.metadata.namespaceName.getD "") R
  | .roleBinding b => b.Resolves (b.metadata.namespaceName.getD "") R
  | _ => True

variable {R R' : Referents} {ns : String} {o : Object}

theorem PodSpec.Resolves.mono {pod : PodSpec} (le : R.LeIn ns R') (h : pod.Resolves ns R) :
    pod.Resolves ns R' where
  account :=
    let ⟨name, given, there⟩ := h.account
    ⟨name, given, le.present rfl there⟩
  keys c hc v hv ref href := le.hasKey rfl (h.keys c hc v hv ref href)
  secrets v hv secret hsecret :=
    let ⟨name, given, there⟩ := h.secrets v hv secret hsecret
    ⟨name, given, le.present rfl there⟩
  claims v hv claim hclaim := le.present rfl (h.claims v hv claim hclaim)
  mounts := h.mounts

theorem RoleBinding.Resolves.mono {binding : RoleBinding} (le : R.LeIn ns R')
    (h : binding.Resolves ns R) : binding.Resolves ns R' where
  isRole := h.isRole
  role := le.present rfl h.role
  account :=
    let ⟨subject, given, isAccount, here, there⟩ := h.account
    ⟨subject, given, isAccount, here, le.present rfl there⟩

theorem Object.Resolves.mono (le : R.LeIn o.namespaceName R') (h : o.Resolves R) : o.Resolves R' := by
  cases o with
  | deployment d =>
    obtain ⟨pod, given, resolves⟩ := h
    exact ⟨pod, given, resolves.mono le⟩
  | roleBinding b => exact RoleBinding.Resolves.mono le h
  | _ => trivial

@[simp] theorem Object.resolves_ownedBy (owner : OwnerReference) :
    (o.ownedBy owner).Resolves R ↔ o.Resolves R := by
  cases o with
  | roleBinding b =>
    exact ⟨fun h => ⟨h.isRole, h.role, h.account⟩, fun h => ⟨h.isRole, h.role, h.account⟩⟩
  | _ => exact Iff.rfl

@[simp] theorem Object.resolves_keepingStatus (old : Option Object) :
    (o.keepingStatus old).Resolves R ↔ o.Resolves R := by
  unfold Object.keepingStatus
  split <;> exact Iff.rfl

end Kubernetes

/-- The keys that the operator gives to its secrets of a name, for the variables of containers. -/
def promisedKeys (name : String) : List String :=
  if name = Controller.databaseSecretName then ["provider", "name", "user", "password", "host", "port"]
  else if name = PortManager.credentialsSecretName then [PortManager.emailKey, PortManager.passwordKey]
  else []

/-- Whether an object has all keys that are promised for it. -/
def Kubernetes.Object.KeepsPromises : Object → Prop
  | .secret s => ∀ key ∈ promisedKeys (s.metadata.name.getD ""), s.HasKey key
  | _ => True

@[simp] theorem Kubernetes.Object.keepsPromises_ownedBy {o : Object} (owner : OwnerReference) :
    (o.ownedBy owner).KeepsPromises ↔ o.KeepsPromises := by
  cases o <;> exact Iff.rfl

/-- Whether a call stores nothing that refers to anything or lacks a key. -/
def Call.IsFree (c : Call) : Prop :=
  ∀ o, c.stores? = some o → o.KeepsPromises ∧ ∀ R, o.Resolves R

theorem Call.isFree_of_stores {c : Call} (h : c.stores? = none) : c.IsFree := by
  intro o stores
  rw [h] at stores
  cases stores

theorem Call.isFree_of_within {W : Object → Prop} {c : Call} (h : c.Within W)
    (free : ∀ o, W o → o.KeepsPromises ∧ ∀ R, o.Resolves R) : c.IsFree := by
  rcases h with quiet | ⟨o, stores, hW⟩
  · exact isFree_of_stores (by cases c <;> first | rfl | simp [Call.isQuiet] at quiet)
  · rintro o' stores'
    obtain rfl := Option.some.inj (stores.symm.trans stores')
    exact free o hW

theorem Call.isFree_of_account {c : Call} {url : String} (h : c.isAccountAt url) : c.IsFree :=
  isFree_of_stores (by cases c <;> first | rfl | simp [Call.isAccountAt] at h)

/-- Whether events show that an object is there. -/
def Shown (h : List Event) (a : Address) : Prop := a.kind ≠ .service ∧ ∃ e ∈ h, e.Shows a

theorem Shown.mono {h h' : List Event} {a : Address} (sub : ∀ e ∈ h, e ∈ h') (shown : Shown h a) :
    Shown h' a :=
  let ⟨kind, e, he, shows⟩ := shown
  ⟨kind, e, sub e he, shows⟩

/-- The objects of some addresses can be referred to, and the promised keys of the secrets among them. -/
def Referents.of (P : Address → Prop) : Referents where
  Present := P
  HasKey a key := P a ∧ a.kind = .secret ∧ key ∈ promisedKeys a.name

theorem Referents.of_le {P Q : Address → Prop} (h : ∀ a, P a → Q a) (ns : String) :
    (of P).LeIn ns (of Q) :=
  ⟨fun _ => h _, fun _ there => ⟨h _ there.1, there.2⟩⟩

/-- What is stored has the promised keys, and refers to what was seen before. -/
def referring : Guard where
  Allows h c := ∀ o, c.stores? = some o → o.KeepsPromises ∧ o.Resolves (.of (Shown h))
  lasts sub allowed o stores :=
    ⟨(allowed o stores).1,
      (allowed o stores).2.mono (Referents.of_le (fun _ => Shown.mono fun _ he => sub.subset he) _)⟩

theorem Call.IsFree.allowed {c : Call} (free : c.IsFree) : referring.Frees c :=
  fun _ o stores => ⟨(free o stores).1, (free o stores).2 _⟩

/-- Whether events show that the objects of some addresses are there. -/
def Seen (known : List Address) (h : List Event) : Prop := ∀ a ∈ known, Shown h a

theorem Seen.later {known : List Address} {h : List Event} (seen : Seen known h) (t : List Event) :
    Seen known (h ++ t) := fun a ha => (seen a ha).mono fun _ => List.mem_append_left _

namespace Attempt

variable {α β : Type} {x : Attempt α} {f : α → Attempt β} {known more rest : List Address}

/-- `x.Builds known more`: once the objects of `known` were seen, what the attempt stores has the promised
keys and refers to what was seen by then, and when the attempt succeeds those of `more` were seen. -/
structure Builds (known : List Address) (x : Attempt α) (more : List Address) : Prop where
  heeds : x.Heeds referring (Seen known) fun _ => Seen more

namespace Builds

theorem bind (hx : x.Builds known more) (hf : ∀ a, (f a).Builds (known ++ more) rest) :
    (x >>= f).Builds known rest := by
  have both : x.Heeds referring (Seen known) fun _ => Seen (known ++ more) := by
    refine ⟨hx.heeds.allowed, fun seen yields b hb => ?_⟩
    rcases List.mem_append.1 hb with hb | hb
    · exact seen.later _ b hb
    · exact hx.heeds.leaves seen yields b hb
  exact ⟨both.bind fun a => (hf a).heeds⟩

theorem of_free (free : ∀ {t r}, x.run.Plays t r → ∀ e ∈ t, e.call.IsFree) : x.Builds known [] :=
  ⟨(Heeds.of_free fun plays e he => (free plays e he).allowed).mono fun _ _ _ => nofun⟩

theorem of_only (h : x.Only Call.IsFree) : x.Builds known [] := of_free fun plays => plays.only h

theorem pure (a : α) (h : ∀ b ∈ more, b ∈ known) : (Pure.pure a : Attempt α).Builds known more :=
  ⟨.pure a fun _ seen b hb => seen b (h b hb)⟩

/-- A sync sees its object before it succeeds. -/
theorem sync {owner : OwnerReference} {mode : SyncMode} {o : Object} (kind : o.kind ≠ .service)
    (keeps : o.KeepsPromises) (resolves : o.Resolves (.of (· ∈ known))) :
    (sync owner mode o).Builds known [o.address] := by
  have allowed {past : List Event} (e : Event) (seen : Seen known past) :
      (o.ownedBy owner).KeepsPromises ∧ (o.ownedBy owner).Resolves (.of (Shown (past ++ [e]))) := by
    rw [Object.keepsPromises_ownedBy, Object.resolves_ownedBy]
    exact ⟨keeps, resolves.mono (Referents.of_le (seen.later [e]) _)⟩
  refine ⟨(Heeds.sync (Call.isFree_of_stores rfl).allowed (fun past seen o' stores => ?_)
    fun past found seen _ o' stores => ?_).mono ?_⟩
  · obtain rfl := Option.some.inj stores
    exact allowed _ seen
  · obtain rfl := Option.some.inj stores
    exact allowed _ seen
  · rintro r _ ⟨past, t, rfl, -, yields⟩ b hb
    obtain rfl := List.mem_singleton.1 hb
    refine Shown.mono (fun _ => List.mem_append_right _) ⟨kind, ?_⟩
    obtain ⟨rfl, -⟩ | ⟨old, rfl, -⟩ | ⟨old, rfl, -⟩ := yields_sync yields
    · exact ⟨_, .tail _ (.head _), .inl ⟨o.ownedBy owner, Event.storedAt?_eq_some.2
        ⟨rfl, Object.address_ownedBy ..⟩⟩⟩
    · exact ⟨_, .head _, .inr ⟨old, rfl⟩⟩
    · exact ⟨_, .head _, .inr ⟨old, rfl⟩⟩

theorem holds {x : Attempt Outcome} (h : x.Builds [] more) {t : List Event} {o : Outcome}
    (plays : (settle x).Plays t o) : referring.Holds t :=
  Heeds.holds ⟨fun _ => h.heeds.allowed nofun, fun _ => h.heeds.leaves nofun⟩ plays

end Builds

end Attempt

/-- The deployment of a component refers to its account and to what its containers and volumes name. -/
theorem Component.resolves_deployment (c : Component) (ns : String) {R : Referents}
    (account : R.Present ⟨.serviceAccount, ns, c.name⟩)
    (keys : ∀ container ∈ c.containers, ∀ v ∈ container.env.getD [], ∀ ref, v.secretKeyRef? = some ref →
      R.HasKey ⟨.secret, ns, ref.name⟩ ref.key)
    (secrets : ∀ v ∈ c.volumes, ∀ secret, v.secret = some secret →
      ∃ name, secret.secretName = some name ∧ R.Present ⟨.secret, ns, name⟩)
    (claims : ∀ v ∈ c.volumes, ∀ claim, v.persistentVolumeClaim = some claim →
      R.Present ⟨.volumeClaim, ns, claim.claimName⟩)
    (mounts : ∀ container ∈ c.containers, ∀ m ∈ container.volumeMounts.getD [],
      ∃ v ∈ c.volumes, v.name = m.name) :
    (Object.deployment (c.deployment ns)).Resolves R := by
  have volumes : (if c.volumes.isEmpty then none else some c.volumes).getD [] = c.volumes := by
    cases c.volumes <;> rfl
  refine ⟨_, rfl, ⟨⟨c.name, rfl, account⟩, keys, ?_, ?_, ?_⟩⟩
  · intro v hv
    rw [volumes] at hv
    exact secrets v hv
  · intro v hv
    rw [volumes] at hv
    exact claims v hv
  · intro container hc m hm
    rw [volumes]
    exact mounts container hc m hm

theorem Component.resolves_roleBinding (c : Component) (ns : String) {R : Referents}
    (account : R.Present ⟨.serviceAccount, ns, c.name⟩) (role : R.Present ⟨.role, ns, c.name⟩) :
    (Object.roleBinding (c.roleBinding ns)).Resolves R :=
  ⟨rfl, role, _, rfl, rfl, rfl, account⟩

namespace Target

variable {known : List Address} (target : Target) (component : Component)

/-- The account of a component comes before all that refers to it. -/
theorem syncIdentity_builds : (target.syncIdentity component).Builds known
    [⟨.serviceAccount, target.namespaceName, component.name⟩] := by
  have account {known : List Address} : (target.syncObject (.serviceAccount
      (component.serviceAccount target.namespaceName))).Builds known _ := .sync nofun trivial trivial
  have role {known : List Address} : (target.syncObject (.role
      (component.role target.namespaceName))).Builds known _ := .sync nofun trivial trivial
  have binding : (target.syncObject (.roleBinding (component.roleBinding target.namespaceName))).Builds
      (known ++ [⟨.serviceAccount, target.namespaceName, component.name⟩] ++
        [⟨.role, target.namespaceName, component.name⟩]) _ :=
    .sync nofun trivial (component.resolves_roleBinding _ (by simp [Referents.of])
      (by simp [Referents.of]))
  refine .bind account fun _ => ?_
  split
  · exact .bind role fun _ => .bind binding fun _ => .pure _ (by simp)
  · exact .pure _ (by simp)

theorem syncService_free : (target.syncService component).Only Call.IsFree := by
  unfold syncService
  have free (s : Service) (owner : OwnerReference) :
      (sync owner .apply (.service s)).Only Call.IsFree :=
    (only_sync (W := fun o => ∃ s, o = .service s) .apply ⟨_, rfl⟩).mono fun _ within =>
      Call.isFree_of_within within (by rintro _ ⟨s, rfl⟩; exact ⟨trivial, fun _ => trivial⟩)
  split
  · exact .bind (free ..) fun _ => .pure _
  · exact .pure _

end Target

namespace Reconcile

open Attempt

variable {settings : Setup} {cp : ControlPlane} {known : List Address}

theorem free_of_reach {α : Type} {x : Attempt α} (h : x.Only (Call.Within fun _ => False)) :
    x.Only Call.IsFree := h.mono fun _ within => Call.isFree_of_within within fun _ => False.elim

theorem resolves_portManager (config : PortManager.Config) (ns : String)
    (account : (⟨.serviceAccount, ns, PortManager.name⟩ : Address) ∈ known)
    (credentials : credentialsAddress ns ∈ known) :
    (Object.deployment ((PortManager.component config).deployment ns)).Resolves (.of (· ∈ known)) := by
  have promised (key : String) (h : key ∈ promisedKeys PortManager.credentialsSecretName) :
      (Referents.of (· ∈ known)).HasKey (credentialsAddress ns) key := ⟨credentials, rfl, h⟩
  refine Component.resolves_deployment _ _ account ?_ nofun nofun ?_
  · simp only [PortManager.component, forall_eq, PortManager.container,
      Option.getD_some, List.mem_cons, List.not_mem_nil, or_false, forall_eq_or_imp,
      EnvVariable.secretKeyRef?_fixed, EnvVariable.secretKeyRef?_ofField,
      EnvVariable.secretKeyRef?_ofSecret, Option.some.injEq, forall_eq', reduceCtorEq,
      false_implies, implies_true, true_and, and_true]
    exact ⟨promised _ (by decide), promised _ (by decide)⟩
  · simp [PortManager.component, PortManager.container, containerOf]

theorem resolves_router (config : Router.Config) (ns : String)
    (account : (⟨.serviceAccount, ns, Router.name⟩ : Address) ∈ known)
    (leaves : ∀ name ∈ Router.leafSecretNames, (⟨.secret, ns, name⟩ : Address) ∈ known) :
    (Object.deployment ((Router.component config).deployment ns)).Resolves (.of (· ∈ known)) := by
  refine Component.resolves_deployment _ _ account ?_ ?_ ?_ ?_
  · simp [Router.component, Router.container]
  · simpa [Router.component, Router.secretVolume, Referents.of] using
      And.intro (leaves Router.internalSecretName (by decide)) (leaves Router.amqpsSecretName (by decide))
  · simp [Router.component, Router.secretVolume]
  · simp [Router.component, Router.container, Router.secretVolume, Router.secretMount]

theorem resolves_controller (config : Controller.Config) (ns : String)
    (account : (⟨.serviceAccount, ns, Controller.name⟩ : Address) ∈ known)
    (database : databaseAddress ns ∈ known)
    (claim : config.database.isExternal = false →
      (⟨.volumeClaim, ns, Controller.claimName⟩ : Address) ∈ known) :
    (Object.deployment ((Controller.component config).deployment ns)).Resolves (.of (· ∈ known)) := by
  have promised (key : String) (h : key ∈ promisedKeys Controller.databaseSecretName) :
      (Referents.of (· ∈ known)).HasKey ⟨.secret, ns, Controller.databaseSecretName⟩ key :=
    ⟨database, rfl, h⟩
  refine Component.resolves_deployment _ _ account ?_ ?_ ?_ ?_
  · simp only [Controller.component, forall_eq, Controller.container,
      Option.getD_some, Controller.environment, List.mem_append, or_imp, forall_and, List.mem_cons,
      List.not_mem_nil, or_false, EnvVariable.secretKeyRef?_fixed,
      EnvVariable.secretKeyRef?_ofSecret, Option.some.injEq, forall_eq', reduceCtorEq, false_implies,
      implies_true, and_true]
    refine ⟨?_, ?_⟩
    · exact ⟨promised _ (by decide), promised _ (by decide), promised _ (by decide),
        promised _ (by decide), promised _ (by decide), promised _ (by decide)⟩
    · intro v hv ref
      split at hv
      · cases hv
      · obtain rfl := List.mem_singleton.1 hv
        simp
  · cases external : config.database.isExternal <;> simp [Controller.component, external,
      Controller.databaseVolume]
  · cases external : config.database.isExternal with
    | true => simp [Controller.component, external]
    | false =>
      simpa [Controller.component, external, Controller.databaseVolume, Referents.of] using
        claim external
  · cases external : config.database.isExternal <;> simp [Controller.component, Controller.container,
      external, Controller.databaseVolume, Controller.databaseMount]

theorem keepsPromises_credentials (ns email : String) (password : Credential) :
    (Object.secret (PortManager.credentialsSecret ns email password)).KeepsPromises := by
  intro key hkey
  have : key ∈ [PortManager.emailKey, PortManager.passwordKey] := hkey
  simp only [List.mem_cons, List.not_mem_nil, or_false] at this
  rcases this with rfl | rfl <;> exact .inr rfl

theorem keepsPromises_database (cp : ControlPlane) (ns : String) :
    (Object.secret (databaseSecretOf cp ns)).KeepsPromises := by
  intro key hkey
  have : key ∈ ["provider", "name", "user", "password", "host", "port"] := hkey
  simp only [List.mem_cons, List.not_mem_nil, or_false] at this
  rcases this with rfl | rfl | rfl | rfl | rfl | rfl <;> exact .inr rfl

theorem portManager_builds {t : List Event} {o : Outcome} (plays : (portManager settings cp).Plays t o) :
    referring.Holds t := by
  suffices builds : (attemptPortManager settings cp).Builds [] [] from builds.holds plays
  refine .bind (.of_only (.ofExcept _)) fun target => .bind (target.syncIdentity_builds _) fun _ =>
    .bind (.sync ?_ ?_ ?_) fun _ => .bind (.sync ?_ ?_ ?_) fun _ => .pure _ (by simp)
  · exact nofun
  · exact keepsPromises_credentials _ _ _
  · trivial
  · exact nofun
  · trivial
  · exact resolves_portManager _ _ (by simp [PortManager.component]) (by simp [credentialsAddress])

/-- A leaf secret is seen once it is synced. -/
theorem syncLeaf_builds (target : Target) (ca : KeyedCertificate) (address : String) {name : String}
    (isLeaf : name ∈ Router.leafSecretNames) :
    (syncLeaf target ca address name).Builds known [⟨.secret, target.namespaceName, name⟩] := by
  have none : promisedKeys name = [] := by
    simp only [Router.leafSecretNames, List.mem_cons, List.not_mem_nil, or_false] at isLeaf
    rcases isLeaf with rfl | rfl <;> rfl
  refine .bind (.of_only (.ofExcept _)) fun alternative =>
    .bind (.of_only (free_of_reach only_drawKey)) fun fresh =>
      .bind (.sync ?_ ?_ ?_) fun _ => .pure _ (by simp)
  · simp [Object.kind]
  · show ∀ key ∈ promisedKeys name, _
    simp [none]
  · trivial

theorem leaves_builds (target : Target) (ca : KeyedCertificate) (address : String) :
    (Router.leafSecretNames.forM (syncLeaf target ca address)).Builds known
      (Router.leafSecretNames.map fun name => ⟨.secret, target.namespaceName, name⟩) := by
  refine .bind (syncLeaf_builds _ _ _ ?_) fun _ => .bind (syncLeaf_builds _ _ _ ?_) fun _ => .pure _ ?_
  · simp [Router.leafSecretNames]
  · simp [Router.leafSecretNames]
  · simp [Router.leafSecretNames]

theorem routerAuthority_free (pem : PemReader) (target : Target) :
    (routerAuthority pem target).Only Call.IsFree := by
  refine .bind (free_of_reach (only_getSecret ..)) fun found => ?_
  cases found with
  | some secret => exact .ofExcept _
  | none =>
    refine .bind (free_of_reach only_drawKey) fun fresh => .bind ?_ fun _ => .pure _
    refine (only_sync (W := fun o => o.KeepsPromises ∧ ∀ R, o.Resolves R) .createOnly ?_).mono
      fun _ within => Call.isFree_of_within within fun _ => id
    refine ⟨?_, fun _ => trivial⟩
    show ∀ key ∈ promisedKeys Router.authoritySecretName, _
    exact nofun

theorem router_builds {t : List Event} {o : Outcome} (plays : (router settings cp).Plays t o) :
    referring.Holds t := by
  suffices builds : (attemptRouter settings cp).Builds [] [] from builds.holds plays
  refine .bind (.of_only (.ofExcept _)) fun target => .bind (target.syncIdentity_builds _) fun _ =>
    .bind (.of_only (target.syncService_free _)) fun _ =>
      .bind (.of_only (free_of_reach (routerAddress_reach ..))) fun address => ?_
  cases address with
  | none => exact .pure _ (by simp)
  | some address =>
    refine .bind (.of_only (routerAuthority_free ..)) fun ca =>
      .bind (leaves_builds target ca address) fun _ => .bind (.sync ?_ ?_ ?_) fun _ => .pure _ (by simp)
    · exact nofun
    · trivial
    · exact resolves_router _ _ (by simp [Router.component]) fun name isLeaf => by simp [isLeaf]

theorem verifyPullSecret_free (ns name : String) : (verifyPullSecret ns name).Only Call.IsFree :=
  free_of_reach (verifyPullSecret_reach ..)

theorem syncController_builds (settings : Setup) (target : Target) (cp : ControlPlane) :
    (syncController settings target cp).Builds known [] := by
  refine .bind (target.syncIdentity_builds _) fun _ =>
    .bind (.of_only (free_of_reach (only_getSecret ..))) fun found =>
      .bind (.sync ?_ ?_ ?_) fun _ => .bind (.of_only (target.syncService_free _)) fun _ => ?_
  · exact nofun
  · exact keepsPromises_database cp _
  · trivial
  · dsimp only
    split
    · refine .bind (.sync ?_ ?_ ?_) fun _ => .bind (.sync ?_ ?_ ?_) fun _ => .pure _ (by simp)
      · exact nofun
      · trivial
      · trivial
      · exact nofun
      · trivial
      · exact resolves_controller _ _ (by simp [Controller.component]) (by simp [databaseAddress])
          (by simp)
    · rename_i external
      refine .bind (.sync ?_ ?_ ?_) fun _ => .pure _ (by simp)
      · exact nofun
      · trivial
      · exact resolves_controller _ _ (by simp [Controller.component]) (by simp [databaseAddress])
          fun internal => absurd (congrArg Bool.not internal) external

/-- What the bootstrap stores are credentials, which refer to nothing. -/
theorem bootstrapController_free {target : Target} {t : List Event} {r : Except Failure Outcome}
    (plays : (bootstrapController settings target cp).run.Plays t r) : ∀ e ∈ t, e.call.IsFree := by
  have quiet {c : Call} (h : c.isQuiet) : c.IsFree :=
    Call.isFree_of_within (W := fun _ => False) (.inl h) fun _ => False.elim
  obtain ⟨answer, u, rfl, bootstraps⟩ := plays_bootstrapController plays
  refine List.forall_mem_cons.2 ⟨Call.isFree_of_stores rfl, ?_⟩
  cases bootstraps with
  | unavailable _ idle => exact fun e he => quiet (idle e he)
  | available t₁ t₂ t₃ session before opened after =>
    intro e he
    rcases List.mem_append.1 he with he | he
    · exact quiet (before e he)
    rcases List.mem_append.1 he with he | he
    · rcases Program.Plays.only opened (openSession_reach target cp.spec.user) e he with
        within | account | restart
      · refine Call.isFree_of_within within ?_
        rintro _ rfl
        rw [Object.keepsPromises_ownedBy]
        exact ⟨keepsPromises_credentials _ _ _, fun _ => trivial⟩
      · exact Call.isFree_of_account account
      · exact Call.isFree_of_stores (by rw [restart]; rfl)
    · rcases after e he with h | registers
      · exact quiet h
      · refine Call.isFree_of_stores ?_
        obtain ⟨c, r⟩ := e
        cases c <;> first | rfl | simp [Call.isRegistration] at registers

theorem controller_builds {t : List Event} {o : Outcome} (plays : (controller settings cp).Plays t o) :
    referring.Holds t := by
  suffices builds : (attemptController settings cp).Builds [] [] from builds.holds plays
  have drive (target : Target) : (driveController settings target cp).Builds [] [] := by
    refine .bind (syncController_builds ..) fun result => ?_
    have rest : (bootstrapController settings target cp).Builds [] [] := .of_free bootstrapController_free
    dsimp only
    split
    · exact .pure _ (by simp)
    · split
      · exact .bind (.of_only (Program.Only.perform (Call.isFree_of_stores rfl))) fun _ => rest
      · exact rest
  refine .bind (.of_only (.ofExcept _)) fun target => ?_
  dsimp only
  split
  · exact .bind (.of_only (verifyPullSecret_free ..)) fun _ => drive target
  · exact drive target

theorem referring_heeded (settings : Setup) : Heeded settings fun _ => referring where
  router := router_builds
  controller := controller_builds
  portManager := portManager_builds

end Reconcile

namespace Store

open Reconcile

/-- The names of the secrets that the operator stores. -/
def operatorSecretNames : List String := Controller.databaseSecretName :: Reconcile.secretNames

/-- Whether there is nothing in a namespace but secrets of other names than those of the operator. -/
def IsFresh (s : Store) (ns : String) : Prop :=
  ∀ a o, a.namespaceName = ns → s a = some o → o.kind = .secret ∧ a.name ∉ operatorSecretNames

/-- What can be referred to in a store. -/
def referents (s : Store) : Referents where
  Present a := (s a).isSome
  HasKey a key := ∃ secret, s a = some (.secret secret) ∧ secret.HasKey key

/-- Whether all is there that the objects of a namespace refer to. -/
def Resolved (s : Store) (ns : String) : Prop :=
  ∀ a o, a.namespaceName = ns → s a = some o → o.Resolves s.referents

theorem mem_operatorSecretNames {name key : String} (h : key ∈ promisedKeys name) :
    name ∈ operatorSecretNames := by
  unfold promisedKeys at h
  split at h
  · rename_i database
    rw [database]
    exact .head _
  split at h
  · rename_i credentials
    rw [credentials]
    decide
  · cases h

end Store

section Underway

variable {ι : Type} [DecidableEq ι] {settings : Setup} {runners : ι → Reconcile.Runner}
  {ns : String} {s : Store} {t : List (ι × Event)}
  (fresh : s.IsFresh ns)
  (underway : Underway (fun i => (runners i).program settings) t)
  (admitted : s.Admits (t.map (·.2)))

include underway in
/-- Whatever is stored was allowed to be, after what its writer had seen by then. -/
theorem referring_of_stored {t₁ t₂ : List Event} {e : Event} {a : Address} {o : Object}
    (split : t.map (·.2) = t₁ ++ e :: t₂) (stores : e.storedAt? a = some o) :
    ∃ h : List Event, (∀ e ∈ h, e ∈ t.map (·.2)) ∧ o.KeepsPromises ∧ o.Resolves (.of (Shown h)) := by
  obtain ⟨u₁, x, rfl, rfl, tail⟩ := List.map_eq_append_iff.1 split
  obtain ⟨⟨i, e'⟩, u₂, rfl, rfl, rfl⟩ := List.map_eq_cons_iff.1 tail
  obtain ⟨cp, -, allowed⟩ := (Reconcile.referring_heeded settings).underway underway stores
  have stored := Event.stores?_of_stored (Event.storedAt?_eq_some.1 stores).1
  refine ⟨own i u₁, fun e he => ?_, allowed o stored⟩
  rw [List.map_append]
  exact List.mem_append_left _ (mem_of_own he)

include fresh underway admitted in
/-- What was seen can be referred to from then on. -/
theorem referents_of_shown {h : List Event} (sub : ∀ e ∈ h, e ∈ t.map (·.2)) :
    (Referents.of (Shown h)).LeIn ns (s.after (t.map (·.2))).referents where
  present _ shown :=
    let ⟨kind, _, he, shows⟩ := shown
    Store.isSome_of_shown admitted kind (sub _ he) shows
  hasKey := by
    rintro a key here ⟨⟨kind, e, he, shows⟩, secret, promised⟩
    obtain ⟨o, now⟩ := Option.isSome_iff_exists.1
      (Store.isSome_of_shown admitted kind (sub e he) shows)
    rcases Store.after_cases now with initial | ⟨t₁, e', t₂, o', before, split, stores, rfl⟩
    · exact absurd (Store.mem_operatorSecretNames promised) (fresh a o here initial).2
    obtain ⟨-, -, keeps, -⟩ := referring_of_stored underway split stores
    obtain ⟨-, place⟩ := Event.storedAt?_eq_some.1 stores
    obtain ⟨secret', rfl⟩ : ∃ secret, o' = .secret secret := by
      have : o'.kind = .secret := (congrArg Address.kind place).trans secret
      cases o' with
      | secret secret => exact ⟨secret, rfl⟩
      | _ => cases this
    rw [Object.keepingStatus_secret] at now
    exact ⟨secret', now, keeps key (by rwa [← place] at promised)⟩

include fresh underway admitted in
/-- However passes and parts of passes overlap, whatever they declare and whatever fails: in a namespace
that was fresh, at any moment all is there that the objects refer to. -/
theorem resolved_of_underway : (s.after (t.map (·.2))).Resolved ns := by
  intro a o here now
  rcases Store.after_cases now with initial | ⟨t₁, e, t₂, o', before, split, stores, rfl⟩
  · have secret := (fresh a o here initial).1
    cases o with
    | secret secret => trivial
    | _ => cases secret
  · obtain ⟨h, sub, -, resolves⟩ := referring_of_stored underway split stores
    obtain ⟨-, place⟩ := Event.storedAt?_eq_some.1 stores
    have home : o'.namespaceName = ns := (congrArg Address.namespaceName place).trans here
    rw [Object.resolves_keepingStatus]
    exact resolves.mono (home ▸ referents_of_shown fresh underway admitted sub)

end Underway

namespace Reconcile

open Simulation

/-- A world in which two control planes of one namespace are declared. -/
def neighbours : World :=
  { cluster := (({} : Cluster).insertControlPlane (neighbour true)).insertControlPlane (neighbour false) }

/-- The passes over both of them, broken off when each has stored a deployment. -/
def brokenOff : (Bool → Program Outcome) × List (Bool × Event) × World :=
  neighbours.turns (.replicate 14 true ++ .replicate 30 false ++ .replicate 25 true) fun east =>
    (Runner.pass "ns" (if east then "east" else "west")).program .standard

theorem underway_brokenOff : Underway
    (fun east => (Runner.pass "ns" (if east then "east" else "west")).program .standard)
    brokenOff.2.1 :=
  World.underway_turns _ _ _

theorem resolved_of_brokenOff :
    Store.IsFresh neighbours.cluster.object? "ns" ∧
      (brokenOff.2.1.any fun x => x.1 && (x.2.storedAt? (controllerAddress "ns")).isSome) ∧
      (brokenOff.2.1.any fun x => !x.1 && (x.2.storedAt? ⟨.deployment, "ns", Router.name⟩).isSome) ∧
      Store.Resolved (Store.after neighbours.cluster.object? (brokenOff.2.1.map (·.2))) "ns" := by
  have fresh : Store.IsFresh neighbours.cluster.object? "ns" := fun a o _ there => by cases there
  have follows : neighbours.Follows (brokenOff.2.1.map (·.2)) brokenOff.2.2 := World.follows_turns ..
  exact ⟨fresh, by decide +kernel, by decide +kernel,
    resolved_of_underway fresh underway_brokenOff follows.store.1⟩

end Reconcile

end EdgePlane
