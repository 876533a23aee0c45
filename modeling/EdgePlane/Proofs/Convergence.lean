import EdgePlane.Proofs.CleanPart
import EdgePlane.Proofs.Happening

/-!
# Convergence

When a pass makes a control plane ready, the cluster holds all objects that the control plane declares,
as they are declared, and the management interface knows its user and its router. The certificates of
the router are issued for the router's address by the authority that is stored beside them. Whatever
else stood in the cluster is left as it was.
-/

namespace EdgePlane.Reconcile

open Kubernetes Simulation

/-- The objects that a control plane declares: those of its components, the settings of the database,
and the claim for the database file unless the database is outside. -/
def declaredObjects (settings : Setup) (cp : ControlPlane) (ns : String) : List Object :=
  (routerOf settings cp).objects ns ++
    ((controllerOf settings cp).objects ns ++ [.secret (databaseSecretOf cp ns)] ++ claims cp ns) ++
    (portManagerOf settings cp ns).objects ns

/-- The secrets that are stored beside the declared objects. -/
def secretNames : List String :=
  [Router.authoritySecretName, Router.amqpsSecretName, Router.internalSecretName,
    PortManager.credentialsSecretName]

/-- The router's address from outside: that of its service's load balancer, or the declared one. -/
def knownAddress? (cp : ControlPlane) (service : Option Object) : Option String :=
  if cp.spec.services.router.isLoadBalancer then externalAddress? service
  else some cp.spec.ingresses.router.address

/-- Whether a secret holds a certificate for an address with its key, signed by an authority and beside
the authority's certificate. -/
structure Certifies (secret : Secret) (address : String) (authority : Certificate) : Prop where
  certificate : ∃ c, secret.data? certificateKey = some (.certificate c) ∧ c.subject = address ∧
    c.isSignedBy authority ∧ secret.data? privateKeyKey = some (.privateKey c.key)
  authority : secret.data? authorityKey = some (.certificate authority)

/-- A world in which a control plane has been brought about, as seen from the world before. -/
structure Converged (settings : Setup) (cp : ControlPlane) (target : Target)
    (before after : World) : Prop where
  /-- The declared objects are stored with their only owner. Only what the cluster reported of them is
  carried over. -/
  declared : ∀ o ∈ declaredObjects settings cp target.namespaceName,
    after.cluster.object? o.address =
      some ((o.ownedBy target.owner).keepingStatus (before.cluster.object? o.address))
  /-- The router's certificates are issued for its address by the stored authority. -/
  certified : ∃ address authority ca,
    knownAddress? cp (after.cluster.object? ⟨.service, target.namespaceName, Router.name⟩) =
      some address ∧
    after.cluster.object? ⟨.secret, target.namespaceName, Router.authoritySecretName⟩ =
      some (.secret authority) ∧
    KeyedCertificate.ofSecret settings.pem authority = .ok ca ∧
    (∀ name ∈ Router.leafSecretNames, ∃ leaf,
      after.cluster.object? ⟨.secret, target.namespaceName, name⟩ = some (.secret leaf) ∧
      leaf.metadata.ownerReferences = some [target.owner] ∧
      Certifies leaf address ca.certificate) ∧
    (after.api (internalUrl target.namespaceName)).router = some (registration cp address)
  /-- The declared user can log in. -/
  known : (after.api (internalUrl target.namespaceName)).users.get? cp.spec.user.email =
    some cp.spec.user.password.decode
  /-- Nothing else is touched. -/
  others : ∀ a, (∀ o ∈ declaredObjects settings cp target.namespaceName, o.address ≠ a) →
    (∀ name ∈ secretNames, a ≠ ⟨.secret, target.namespaceName, name⟩) →
    after.cluster.object? a = before.cluster.object? a

/-- Whether every authority in a world is whole: its certificate belongs to its key. -/
def AuthoritiesWhole (pem : PemReader) (w : World) : Prop :=
  ∀ ns o, w.cluster.object? ⟨.secret, ns, Router.authoritySecretName⟩ = some o → o.HoldsAuthority pem

theorem filter_address {os : List Object} {o : Object}
    (distinct : (os.map fun o => (o.address.kind, o.address.name)).Nodup) (h : o ∈ os) :
    os.filter (·.address = o.address) = [o] := by
  induction os with
  | nil => cases h
  | cons o' os ih =>
    rw [List.map_cons, List.nodup_cons] at distinct
    have ne {p q : Object} (hp : p ∈ os) (heq : p.address = q.address)
        (hq : (q.address.kind, q.address.name) ∉ os.map fun o => (o.address.kind, o.address.name)) :
        False := hq (List.mem_map.2 ⟨p, hp, by rw [heq]⟩)
    rcases List.mem_cons.1 h with rfl | h
    · rw [List.filter_cons_of_pos (by simp), List.cons.injEq]
      refine ⟨rfl, List.filter_eq_nil_iff.2 fun p hp heq => ne hp (by simpa using heq) distinct.1⟩
    · rw [List.filter_cons_of_neg (fun heq => ne h (by simpa [eq_comm] using heq) distinct.1)]
      exact ih distinct.2 h

theorem filter_owned (target : Target) (os : List Object) (a : Address) :
    (target.owned os).filter (·.address = a) = target.owned (os.filter (·.address = a)) := by
  simp [Target.owned, List.filter_map, Function.comp_def]

variable {settings : Setup} {cp : ControlPlane} {target : Target} {m : List Event}

/-- What stands at an address in the end is told by the three parts where they write it at most once. -/
theorem Parts.storedAt (p : Parts settings cp m) {a : Address} {os : List Object}
    (h : (stored p.router ++ (stored p.controller ++ stored p.portManager)).filter
      (·.address = a) = os) (short : os.length ≤ 1) : m.filterMap (·.storedAt? a) = os := by
  have router := p.apart.filterMap (·.storedAt? a)
  have others := p.othersApart.filterMap (·.storedAt? a)
  simp only [storedAt_eq] at router others ⊢
  rw [List.filter_append, List.filter_append] at h
  have hothers : (stored p.others).filter (·.address = a) =
      (stored p.controller).filter (·.address = a) ++ (stored p.portManager).filter (·.address = a) :=
    others.eq_append (by
      have := congrArg List.length h
      simp only [List.length_append] at this ⊢
      omega)
  rw [hothers] at router
  rw [router.eq_append (by rw [h]; exact short), h]

/-- The objects that all parts store, but for the authority and the credentials, which may be there
already. -/
def replacedObjects (settings : Setup) (cp : ControlPlane) (ns : String)
    (amqps internal : Object) : List Object :=
  ((routerOf settings cp).identity ns ++ (routerOf settings cp).services ns ++
      [amqps, internal, .deployment ((routerOf settings cp).deployment ns)]) ++
    ((controllerOf settings cp).identity ns ++ [.secret (databaseSecretOf cp ns)] ++
      ((controllerOf settings cp).services ns ++ claims cp ns ++
        [.deployment ((controllerOf settings cp).deployment ns)])) ++
    ((portManagerOf settings cp ns).identity ns ++
      [.deployment ((portManagerOf settings cp ns).deployment ns)])

theorem mem_replacedObjects {ns : String} {amqps internal o : Object} :
    o ∈ replacedObjects settings cp ns amqps internal ↔
      o ∈ declaredObjects settings cp ns ∨ o = amqps ∨ o = internal := by
  have services : (portManagerOf settings cp ns).services ns = [] := rfl
  simp only [replacedObjects, declaredObjects, Component.objects, List.mem_append, List.mem_cons,
    List.not_mem_nil, or_false, services]
  grind

theorem IsLeaf.address_eq {ns address name : String} {ca : KeyedCertificate} {o : Object}
    (h : IsLeaf ns ca address name o) : o.address = ⟨.secret, ns, name⟩ := by
  obtain ⟨alternative, fresh, rfl⟩ := h
  rfl

/-- No two of these objects have the same address, and none has that of the authority or of the
credentials. -/
theorem distinct_replacedObjects (settings : Setup) (cp : ControlPlane) {ns : String}
    {amqps internal : Object}
    (hamqps : amqps.address = ⟨.secret, ns, Router.amqpsSecretName⟩)
    (hinternal : internal.address = ⟨.secret, ns, Router.internalSecretName⟩) :
    ((.secret, Router.authoritySecretName) :: (.secret, PortManager.credentialsSecretName) ::
      (replacedObjects settings cp ns amqps internal).map
        fun o => (o.address.kind, o.address.name)).Nodup := by
  let key (o : Object) : Kind × String := (o.address.kind, o.address.name)
  have router : ((routerOf settings cp).identity ns ++ (routerOf settings cp).services ns).map key =
      [(.serviceAccount, Router.name), (.role, Router.name), (.roleBinding, Router.name),
        (.service, Router.name)] := rfl
  have controller : ((controllerOf settings cp).identity ns).map key =
      [(.serviceAccount, Controller.name)] := rfl
  have services : ((controllerOf settings cp).services ns).map key =
      [(.service, Controller.name)] := rfl
  have portManager : ((portManagerOf settings cp ns).identity ns).map key =
      [(.serviceAccount, PortManager.name), (.role, PortManager.name),
        (.roleBinding, PortManager.name)] := rfl
  have leaves : [amqps, internal].map key =
      [(.secret, Router.amqpsSecretName), (.secret, Router.internalSecretName)] := by
    simp [key, hamqps, hinternal]
  have claimed : (claims cp ns).map key = [] ∨
      (claims cp ns).map key = [(.volumeClaim, Controller.claimName)] := by
    unfold claims
    split
    · exact .inl rfl
    · exact .inr rfl
  have all : (replacedObjects settings cp ns amqps internal).map key =
      [(.serviceAccount, Router.name), (.role, Router.name), (.roleBinding, Router.name),
        (.service, Router.name), (.secret, Router.amqpsSecretName),
        (.secret, Router.internalSecretName), (.deployment, Router.name),
        (.serviceAccount, Controller.name), (.secret, Controller.databaseSecretName),
        (.service, Controller.name)] ++ (claims cp ns).map key ++
      [(.deployment, Controller.name), (.serviceAccount, PortManager.name),
        (.role, PortManager.name), (.roleBinding, PortManager.name),
        (.deployment, PortManager.name)] := by
    simp only [List.map_cons, List.map_nil, List.cons.injEq, and_true] at leaves
    simp only [replacedObjects, List.map_append, List.map_cons, List.map_nil] at router ⊢
    rw [router, controller, services, portManager, leaves.1, leaves.2]
    simp only [List.append_assoc, List.cons_append, List.nil_append]
    rfl
  rw [all]
  rcases claimed with h | h <;> rw [h] <;> decide

theorem SeesAddress.stored {ns address : String} {t : List Event} (h : SeesAddress cp ns address t) :
    stored t = [] := by
  unfold SeesAddress at h
  split at h
  · obtain ⟨found, rfl, -⟩ := h
    rfl
  · rw [h.1]
    rfl

theorem stored_syncOnce {o : Object} {t : List Event} {r : SyncResult}
    (h : (target.syncOnce o).Yields t r) :
    ∀ o' ∈ stored t, o' = o.ownedBy target.owner := by
  obtain ⟨rfl, -⟩ | ⟨old, -, ⟨⟩, -⟩ | ⟨old, rfl, -⟩ := yields_sync h
  · simp [EdgePlane.stored, Event.stored?]
  · simp [EdgePlane.stored, Event.stored?]

theorem SeesAuthority.stored {pem : PemReader} {ca : KeyedCertificate} {t : List Event}
    (h : SeesAuthority pem target ca t) : ∀ o ∈ stored t,
      o.address = ⟨.secret, target.namespaceName, Router.authoritySecretName⟩ := by
  cases h with
  | kept found secret isSecret loaded => simp [EdgePlane.stored, Event.stored?]
  | made found fresh r t missing new synced =>
    intro o ho
    rw [stored_syncOnce synced o ho]
    simp [KeyedCertificate.authoritySecret]

theorem CleanRouter.stored {address : String} {ca : KeyedCertificate} {amqps internal : Object}
    {t : List Event} (h : CleanRouter settings cp target address ca amqps internal t) :
    ∃ u, (∀ o ∈ u, o.address =
        ⟨.secret, target.namespaceName, Router.authoritySecretName⟩) ∧
      stored t = target.owned ((routerOf settings cp).identity target.namespaceName ++
          (routerOf settings cp).services target.namespaceName) ++ u ++
        target.owned [amqps, internal,
          .deployment ((routerOf settings cp).deployment target.namespaceName)] := by
  obtain ⟨t₁, t₂, t₃, t₄, rfl, seen, authority, h₁, h₄⟩ := h.trace
  refine ⟨EdgePlane.stored t₃, authority.stored, ?_⟩
  simp only [stored_append, h₁, h₄, seen.stored, List.nil_append, List.append_assoc]

theorem CleanController.stored {host : String} {t : List Event}
    (h : CleanController settings cp target host t) :
    ∃ u, (∀ o ∈ u, o = (credentialsOf target cp.spec.user).ownedBy target.owner) ∧
      stored t = target.owned ((controllerOf settings cp).identity target.namespaceName ++
        [.secret (databaseSecretOf cp target.namespaceName)] ++
        ((controllerOf settings cp).services target.namespaceName ++
          claims cp target.namespaceName ++
          [.deployment ((controllerOf settings cp).deployment target.namespaceName)])) ++ u := by
  obtain ⟨t₀, t₁, t₂, t₃, t₄, t₅, session, rfl, ⟨changed, synced⟩, opened, seen, h₀, h₂, h₅⟩ :=
    h.trace
  obtain ⟨u₁, found, u₂, r, u₃, rfl, -, identity, database, rest⟩ := yields_syncController synced
  obtain ⟨-, -, -, -, -, credentials⟩ := yields_openSession opened
  refine ⟨EdgePlane.stored t₃, ?_, ?_⟩
  · rcases credentials with h | h <;> simp [h]
  · have look (t : List Event) : EdgePlane.stored (⟨.get ⟨.secret, target.namespaceName,
        Controller.databaseSecretName⟩, .ok found⟩ :: t) = EdgePlane.stored t := rfl
    have put (t : List Event) (token : String) : EdgePlane.stored (⟨.putRouter
        (internalUrl target.namespaceName) token (registration cp host), .ok ()⟩ :: t) =
          EdgePlane.stored t := rfl
    simp only [stored_append, look, put, stored_of_idle h₀, stored_of_idle h₂, stored_of_idle h₅,
      seen.stored, identity, stored_sync database, rest, Target.owned_append, List.nil_append,
      List.append_nil, List.append_assoc]
    rfl

theorem CleanPortManager.stored {t : List Event} (h : CleanPortManager settings cp target t) :
    ∃ u, (∀ o ∈ u, o = (credentialsOf target cp.spec.user).ownedBy target.owner) ∧
      stored t = target.owned ((portManagerOf settings cp target.namespaceName).identity
          target.namespaceName) ++ u ++
        target.owned [.deployment ((portManagerOf settings cp target.namespaceName).deployment
          target.namespaceName)] := by
  obtain ⟨t₁, t₂, t₃, r, rfl, identity, credentials, deployment⟩ := h.trace
  refine ⟨EdgePlane.stored t₂, stored_syncOnce credentials, ?_⟩
  · rw [stored_append, stored_append, identity, deployment, List.append_assoc]

section Clean

variable {address host : String} {ca : KeyedCertificate} {amqps internal : Object}
  (p : Parts settings cp m)
  (router : CleanRouter settings cp target address ca amqps internal p.router)
  (controller : CleanController settings cp target host p.controller)
  (portManager : CleanPortManager settings cp target p.portManager)
include router controller portManager

/-- But for the authority and the credentials, the parts store the replaced objects and nothing else. -/
theorem filter_stored {a : Address}
    (notAuthority : a ≠ ⟨.secret, target.namespaceName, Router.authoritySecretName⟩)
    (notCredentials : a ≠ ⟨.secret, target.namespaceName, PortManager.credentialsSecretName⟩) :
    (stored p.router ++ (stored p.controller ++ stored p.portManager)).filter (·.address = a) =
      target.owned ((replacedObjects settings cp target.namespaceName amqps internal).filter
        (·.address = a)) := by
  obtain ⟨u, hu, hrouter⟩ := router.stored
  obtain ⟨v, hv, hcontroller⟩ := controller.stored
  obtain ⟨w, hw, hportManager⟩ := portManager.stored
  have none {os : List Object} {b : Address} (ne : a ≠ b) (h : ∀ o ∈ os, o.address = b) :
      os.filter (·.address = a) = [] :=
    List.filter_eq_nil_iff.2 fun o ho heq => ne (by rw [← h o ho]; simpa [eq_comm] using heq)
  have credentials {os : List Object}
      (h : ∀ o ∈ os, o = (credentialsOf target cp.spec.user).ownedBy target.owner) :
      os.filter (·.address = a) = [] :=
    none notCredentials fun o ho => by rw [h o ho, Object.address_ownedBy]; rfl
  rw [hrouter, hcontroller, hportManager]
  simp only [List.filter_append, none notAuthority hu, credentials hv, credentials hw, filter_owned,
    replacedObjects, Target.owned_append, List.nil_append, List.append_assoc]

/-- A replaced object is stored once. -/
theorem storedAt_replaced {o : Object}
    (h : o ∈ replacedObjects settings cp target.namespaceName amqps internal) :
    m.filterMap (·.storedAt? o.address) = [o.ownedBy target.owner] := by
  have distinct := distinct_replacedObjects settings cp
    router.amqps_leaf.address_eq router.internal_leaf.address_eq
  rw [List.nodup_cons, List.nodup_cons, List.mem_cons, not_or] at distinct
  obtain ⟨⟨-, authority⟩, credentials, distinct⟩ := distinct
  have apart {name : String} (hname : (Kind.secret, name) ∉
      (replacedObjects settings cp target.namespaceName amqps internal).map
        fun o => (o.address.kind, o.address.name)) :
      o.address ≠ ⟨.secret, target.namespaceName, name⟩ := fun heq =>
    hname (List.mem_map.2 ⟨o, h, by rw [heq]⟩)
  refine p.storedAt ?_ (by simp)
  rw [filter_stored p router controller portManager (apart authority) (apart credentials),
    filter_address distinct h]
  rfl

/-- What is not replaced is not stored, but for the authority and the credentials. -/
theorem storedAt_other {a : Address}
    (declared : ∀ o ∈ declaredObjects settings cp target.namespaceName, o.address ≠ a)
    (secrets : ∀ name ∈ secretNames, a ≠ ⟨.secret, target.namespaceName, name⟩) :
    m.filterMap (·.storedAt? a) = [] := by
  refine p.storedAt ?_ (by simp)
  rw [filter_stored p router controller portManager (secrets _ (by simp [secretNames]))
    (secrets _ (by simp [secretNames]))]
  have none : (replacedObjects settings cp target.namespaceName amqps internal).filter
      (·.address = a) = [] := by
    refine List.filter_eq_nil_iff.2 fun o ho heq => ?_
    have heq : o.address = a := by simpa using heq
    rcases mem_replacedObjects.1 ho with h | rfl | rfl
    · exact declared o h heq
    · exact secrets _ (by simp [secretNames]) (heq.symm.trans router.amqps_leaf.address_eq)
    · exact secrets _ (by simp [secretNames]) (heq.symm.trans router.internal_leaf.address_eq)
  rw [none]
  rfl

/-- The parts store the replaced objects, the authority and the declared credentials. -/
theorem stored_cases {o : Object} (ho : o ∈ EdgePlane.stored m) :
    o ∈ target.owned (replacedObjects settings cp target.namespaceName amqps internal) ∨
      o.address = ⟨.secret, target.namespaceName, Router.authoritySecretName⟩ ∨
      o = (credentialsOf target cp.spec.user).ownedBy target.owner := by
  obtain ⟨u, hu, hrouter⟩ := router.stored
  obtain ⟨v, hv, hcontroller⟩ := controller.stored
  obtain ⟨w, hw, hportManager⟩ := portManager.stored
  have parts : o ∈ EdgePlane.stored p.router ∨ o ∈ EdgePlane.stored p.controller ∨
      o ∈ EdgePlane.stored p.portManager :=
    ((p.apart.filterMap (·.stored?)).mem_iff.1 ho).imp_right (p.othersApart.filterMap (·.stored?)).mem_iff.1
  rw [hrouter, hcontroller, hportManager] at parts
  simp only [replacedObjects, Target.owned_append, List.mem_append] at parts ⊢
  grind

/-- Where the credentials of the port manager stand, only the declared ones are stored. -/
theorem eq_credentials_of_stored {o : Object} (ho : o ∈ EdgePlane.stored m)
    (here : o.address = credentialsAddress target.namespaceName) :
    o = (credentialsOf target cp.spec.user).ownedBy target.owner := by
  have distinct := distinct_replacedObjects settings cp
    router.amqps_leaf.address_eq router.internal_leaf.address_eq
  rw [List.nodup_cons, List.nodup_cons] at distinct
  rcases stored_cases p router controller portManager ho with replaced | authority | credentials
  · obtain ⟨o', ho', rfl⟩ := List.mem_map.1 replaced
    rw [Object.address_ownedBy] at here
    exact absurd (List.mem_map.2 ⟨o', ho', by rw [here]; rfl⟩) distinct.2.1
  · have names : Router.authoritySecretName = PortManager.credentialsSecretName :=
      congrArg Address.name (authority.symm.trans here)
    exact absurd names (by decide)
  · exact credentials

end Clean

/-- Where the authority is read, it is read as stored; where it is made, there was none. -/
theorem SeesAuthority.loads {pem : PemReader} {ca : KeyedCertificate} {t : List Event}
    (h : SeesAuthority pem target ca t) {old : Option Object}
    (secret : ∀ o, old = some o → ∃ s, o = .secret s)
    (admitted : (Part.objectAt ⟨.secret, target.namespaceName, Router.authoritySecretName⟩).Admits
      old t) :
    ∃ authority, (Part.objectAt ⟨.secret, target.namespaceName, Router.authoritySecretName⟩).run
        old t = some (.secret authority) ∧ KeyedCertificate.ofSecret pem authority = .ok ca ∧
      (old = some (.secret authority) ∨ ca.certificate.key = ca.key) := by
  cases h with
  | kept found s isSecret loaded =>
    obtain rfl : some found = old := admitted.1 rfl
    obtain ⟨s', rfl⟩ := secret found rfl
    obtain rfl := Option.some.inj isSecret
    exact ⟨s', rfl, loaded, .inl rfl⟩
  | made found fresh r t missing new synced =>
    obtain rfl : found = old := admitted.1 rfl
    have isNone : found = Option.none := by
      cases found with
      | none => rfl
      | some o =>
        obtain ⟨s, rfl⟩ := secret o rfl
        simp [Object.secret?] at missing
    subst isNone
    obtain ⟨rfl, -⟩ | ⟨o, -, ⟨⟩, -⟩ | ⟨o, rfl, -⟩ := yields_sync synced
    · let made := (Object.secret
        (ca.authoritySecret Router.authoritySecretName target.namespaceName)).ownedBy target.owner
      refine ⟨{ ca.authoritySecret Router.authoritySecretName target.namespaceName with
        metadata := made.metadata }, ?_, KeyedCertificate.ofSecret_authoritySecret ..,
        .inr (by rw [new]; rfl)⟩
      refine (Part.objectAt_run_singleton (o := made) ?_).trans ?_
      · rw [storedAt_eq]
        simp [EdgePlane.stored, Event.stored?, made, KeyedCertificate.authoritySecret]
      · rw [Object.keepingStatus_none]
        rfl
    · cases admitted.2.2.1 rfl

/-- The router stores the authority only where it sees to it. -/
theorem CleanRouter.around_authority {address : String} {ca : KeyedCertificate}
    {amqps internal : Object} {t : List Event}
    (h : CleanRouter settings cp target address ca amqps internal t) :
    ∃ before t' after, t = before ++ t' ++ after ∧ SeesAuthority settings.pem target ca t' ∧
      before.filterMap (·.storedAt? ⟨.secret, target.namespaceName, Router.authoritySecretName⟩) =
        [] ∧
      after.filterMap (·.storedAt? ⟨.secret, target.namespaceName, Router.authoritySecretName⟩) =
        [] := by
  obtain ⟨t₁, t₂, t₃, t₄, htrace, seen, authority, h₁, h₄⟩ := h.trace
  have distinct := distinct_replacedObjects settings cp h.amqps_leaf.address_eq
    h.internal_leaf.address_eq
  rw [List.nodup_cons, List.mem_cons, not_or] at distinct
  have none {t : List Event} {os : List Object} (h : EdgePlane.stored t = target.owned os)
      (hos : ∀ o ∈ os, o ∈ replacedObjects settings cp target.namespaceName amqps internal) :
      t.filterMap (·.storedAt? ⟨.secret, target.namespaceName, Router.authoritySecretName⟩) = [] := by
    rw [storedAt_eq, h, filter_owned, List.filter_eq_nil_iff.2 fun o ho heq => distinct.1.2
      (List.mem_map.2 ⟨o, hos o ho, by rw [of_decide_eq_true heq]⟩)]
    rfl
  refine ⟨t₁ ++ t₂, t₃, t₄, by rw [htrace, List.append_assoc, List.append_assoc], authority, ?_,
    none h₄ fun o ho => ?_⟩
  · rw [List.filterMap_append, none h₁ fun o ho => by
        simp only [replacedObjects, List.mem_append] at ho ⊢
        grind, storedAt_eq, seen.stored]
    rfl
  · simp only [replacedObjects, List.mem_append, List.mem_cons, List.not_mem_nil, or_false] at ho ⊢
    grind

section Authority

variable {address : String} {ca : KeyedCertificate} {amqps internal : Object} (p : Parts settings cp m)
  (router : CleanRouter settings cp target address ca amqps internal p.router) {old : Option Object}
  (admitted : (Part.objectAt ⟨.secret, target.namespaceName, Router.authoritySecretName⟩).Admits old m)
include router admitted

/-- In the end the authority is stored that the router's certificates were issued by. -/
theorem authority_loaded (secret : ∀ o, old = some o → ∃ s, o = .secret s) :
    ∃ authority, (Part.objectAt ⟨.secret, target.namespaceName, Router.authoritySecretName⟩).run
        old m = some (.secret authority) ∧ KeyedCertificate.ofSecret settings.pem authority = .ok ca ∧
      (old = some (.secret authority) ∨ ca.certificate.key = ca.key) := by
  obtain ⟨hrun, hadmits⟩ := Part.interleaving (P := Part.objectAt
      ⟨.secret, target.namespaceName, Router.authoritySecretName⟩) p.apart
    (fun e he => Part.objectAt_ignores (p.others_storedAt
      (show Router.authoritySecretName ∉ controllerNames by decide)
      (show Router.authoritySecretName ∉ portManagerNames by decide) e he)) old
  obtain ⟨before, t, after, htrace, authority, hbefore, hafter⟩ := router.around_authority
  have admitted := hadmits admitted
  rw [htrace, Part.admits_append, Part.admits_append, Part.objectAt_run_of_nil hbefore] at admitted
  rw [hrun, htrace, Part.run_append, Part.run_append, Part.objectAt_run_of_nil hbefore,
    Part.objectAt_run_of_nil hafter]
  exact authority.loads secret admitted.1.2

/-- Its certificate belongs to its key if that was so of the one that stood there. -/
theorem authority_stored (whole : ∀ o, old = some o → o.HoldsAuthority settings.pem) :
    ∃ authority, (Part.objectAt ⟨.secret, target.namespaceName, Router.authoritySecretName⟩).run
        old m = some (.secret authority) ∧ KeyedCertificate.ofSecret settings.pem authority = .ok ca ∧
      ca.certificate.key = ca.key := by
  have secret (o : Object) (h : old = some o) : ∃ s, o = .secret s := by
    obtain ⟨s, -, isSecret, -⟩ := whole o h
    exact ⟨s, isSecret⟩
  obtain ⟨authority, final, loaded, kept | hkey⟩ := authority_loaded p router admitted secret
  · obtain ⟨s, ca', isSecret, loaded', hkey⟩ := whole _ kept
    obtain rfl := Object.secret.inj isSecret
    obtain rfl := Except.ok.inj (loaded'.symm.trans loaded)
    exact ⟨authority, final, loaded, hkey⟩
  · exact ⟨authority, final, loaded, hkey⟩

end Authority

/-- In a trace that stores just a service that reports nothing, whoever looks its address up finds the one
that it has in the end. -/
theorem externalAddress?_found {ns name : String} {s : Service} (hs : s.status = none)
    (written : m.filterMap (·.storedAt? ⟨.service, ns, name⟩) = [.service s]) {old found : Option Object}
    (admitted : (Part.objectAt ⟨.service, ns, name⟩).Admits old m)
    (look : ⟨.get ⟨.service, ns, name⟩, .ok found⟩ ∈ m) :
    externalAddress? ((Part.objectAt ⟨.service, ns, name⟩).run old m) = externalAddress? found := by
  have step : ∀ e ∈ m, ∀ now, externalAddress? now = externalAddress? old →
      (Part.objectAt ⟨.service, ns, name⟩).Fits now e →
      externalAddress? ((Part.objectAt ⟨.service, ns, name⟩).after now e) = externalAddress? old := by
    intro e he now hnow _
    cases hstored : e.storedAt? ⟨.service, ns, name⟩ with
    | none => rw [Part.objectAt_ignores hstored, hnow]
    | some o =>
      have : o ∈ m.filterMap (·.storedAt? ⟨.service, ns, name⟩) :=
        List.mem_filterMap.2 ⟨e, he, hstored⟩
      rw [written] at this
      obtain rfl := List.mem_singleton.1 this
      rw [Part.objectAt_after_of_stored hstored, externalAddress?_keepingStatus hs, hnow]
  obtain ⟨now, hnow, fits⟩ := admitted.fits step rfl _ look
  obtain rfl : found = now := fits rfl
  rw [admitted.keeps step rfl, hnow]

/-- Whoever looks up the router's address in a trace that stores just the declared service sees the
address that is known in the end. -/
theorem SeesAddress.known {ns address : String} {t : List Event} {o : Object}
    (seen : SeesAddress cp ns address t) (sub : ∀ e ∈ t, e ∈ m)
    (service : ∃ s : Service, o = .service s ∧ s.status = none)
    (written : m.filterMap (·.storedAt? ⟨.service, ns, Router.name⟩) = [o])
    {old : Option Object} (admitted : (Part.objectAt ⟨.service, ns, Router.name⟩).Admits old m) :
    knownAddress? cp ((Part.objectAt ⟨.service, ns, Router.name⟩).run old m) = some address := by
  obtain ⟨s, rfl, hs⟩ := service
  unfold SeesAddress at seen
  unfold knownAddress?
  split
  · rename_i balanced
    rw [if_pos balanced] at seen
    obtain ⟨found, rfl, haddress⟩ := seen
    rw [externalAddress?_found hs written admitted (sub _ List.mem_cons_self), haddress]
  · rename_i declared
    rw [if_neg declared] at seen
    rw [seen.2]

theorem SeesAddress.not_account {ns address : String} {t : List Event}
    (h : SeesAddress cp ns address t) : ∀ e ∈ t, ∀ url, e.call.isAccountAt url = false := by
  unfold SeesAddress at h
  split at h
  · obtain ⟨found, rfl, -⟩ := h
    simp [Call.isAccountAt]
  · simp [h.1]

/-- In the end the interface knows the declared user and has the router registered. -/
theorem CleanController.interface {host : String} {t : List Event} {s : Accounts}
    (h : CleanController settings cp target host t) (old : Option Management.DefaultRouter)
    (admitted : (Part.accountsAt (internalUrl target.namespaceName)).Admits s t) :
    ((Part.accountsAt (internalUrl target.namespaceName)).run s t).users.get? cp.spec.user.email =
        some cp.spec.user.password.decode ∧
      (Part.routerAt (internalUrl target.namespaceName)).run old t = some (registration cp host) := by
  obtain ⟨t₀, t₁, t₂, t₃, t₄, t₅, session, rfl, -, opened, seen, -, -, h₅⟩ := h.trace
  obtain ⟨u₁, answer, u₂, rfl, hu₂, -⟩ := yields_openSession opened
  let put : Event := ⟨.putRouter (internalUrl target.namespaceName) session.token
    (registration cp host), .ok ()⟩
  constructor
  · have ignored : ∀ e ∈ u₂ ++ (t₄ ++ put :: t₅),
        (Part.accountsAt (internalUrl target.namespaceName)).Ignores e := by
      intro e he
      simp only [List.mem_append, List.mem_cons] at he
      rcases he with he | he | rfl | he
      · exact Part.accountsAt_ignores (hu₂ e he _)
      · exact Part.accountsAt_ignores (seen.not_account e he _)
      · exact fun s => rfl
      · exact Part.accountsAt_ignores ((h₅ e he).2 _)
    have split : t₀ ++ (t₁ ++ (t₂ ++ (u₁ ++ ⟨.logIn (internalUrl target.namespaceName)
        (Bootstrap.logInOf cp.spec.user), .ok answer⟩ :: u₂ ++ (t₄ ++ put :: t₅)))) =
        (t₀ ++ t₁ ++ t₂ ++ u₁) ++ ⟨.logIn (internalUrl target.namespaceName)
          (Bootstrap.logInOf cp.spec.user), .ok answer⟩ :: (u₂ ++ (t₄ ++ put :: t₅)) := by simp
    rw [split, Part.admits_append, Part.admits_cons] at admitted
    rw [split, Part.run_append, Part.run_cons, Part.run_of_ignores ignored]
    rw [Part.accountsAt_logIn]
    exact admitted.2.1 rfl
  · have last : ∀ e ∈ t₅, (Part.routerAt (internalUrl target.namespaceName)).Ignores e :=
      fun e he => Part.routerAt_ignores ((h₅ e he).2 _)
    simp only [Part.run_append, Part.run_cons, Part.run_of_ignores last]
    simp [Part.routerAt]

/-- A leaf secret certifies its address, since the authority's certificate belongs to its key. -/
theorem IsLeaf.certifies {ns address name : String} {ca : KeyedCertificate} {o : Object}
    (h : IsLeaf ns ca address name o) (whole : ca.certificate.key = ca.key)
    (owner : OwnerReference) :
    ∃ leaf, o.ownedBy owner = .secret leaf ∧ leaf.metadata.ownerReferences = some [owner] ∧
      Certifies leaf address ca.certificate := by
  obtain ⟨alternative, fresh, rfl⟩ := h
  refine ⟨_, rfl, rfl, ⟨(ca.issue address alternative fresh).certificate, rfl, rfl, ?_, rfl⟩, rfl⟩
  simp [Certificate.isSignedBy, KeyedCertificate.issue, whole]

section Address

variable {address host : String} {ca : KeyedCertificate} {amqps internal : Object}
  (p : Parts settings cp m)
  (router : CleanRouter settings cp target address ca amqps internal p.router)
  (controller : CleanController settings cp target host p.controller)
  (portManager : CleanPortManager settings cp target p.portManager)
include router controller portManager

/-- Both the router's and the controller's part saw the address that is known in the end. -/
theorem knownAddress_run {old : Option Object}
    (admitted : (Part.objectAt ⟨.service, target.namespaceName, Router.name⟩).Admits old m) :
    knownAddress? cp ((Part.objectAt ⟨.service, target.namespaceName, Router.name⟩).run old m) =
      some address ∧ host = address := by
  have service : Object.service ((routerOf settings cp).serviceOf target.namespaceName
      ⟨Router.name, (routerConfig settings cp).serviceType, (routerConfig settings cp).loadBalancerIP,
        [Router.messagePort, Router.interiorPort, Router.edgePort]⟩) ∈
      replacedObjects settings cp target.namespaceName amqps internal := by
    simp [replacedObjects, Component.services, Component.serviceObject, routerOf, Router.component]
  have known {host : String} {t : List Event} (seen : SeesAddress cp target.namespaceName host t)
      (sub : ∀ e ∈ t, e ∈ m) : knownAddress? cp ((Part.objectAt
        ⟨.service, target.namespaceName, Router.name⟩).run old m) = some host :=
    seen.known sub ⟨_, rfl, rfl⟩ (storedAt_replaced p router controller portManager service) admitted
  obtain ⟨t₁, t₂, t₃, t₄, hrouter, seen, -⟩ := router.trace
  obtain ⟨u₀, u₁, u₂, u₃, u₄, u₅, session, hcontroller, -, -, seen', -⟩ := controller.trace
  have first := known seen fun e he => p.apart.mem_iff.2 (.inl (by simp [hrouter, he]))
  have second := known seen' fun e he => p.apart.mem_iff.2 (.inr
    (p.othersApart.mem_iff.2 (.inl (by simp [hcontroller, he]))))
  exact ⟨first, Option.some.inj (second.symm.trans first)⟩

end Address

section Pass

variable {w : World} {ns name address host : String} {ca : KeyedCertificate} {amqps internal : Object}
  (pass : Pass settings ns name (w.passTrace settings ns name))
  (router : CleanRouter settings pass.cp target address ca amqps internal pass.parts.router)
  (controller : CleanController settings pass.cp target host pass.parts.controller)
  (portManager : CleanPortManager settings pass.cp target pass.parts.portManager)
include router controller portManager

/-- After the pass a replaced object is as it is declared, with what the cluster reported of it. -/
theorem object?_replaced {o : Object}
    (h : o ∈ replacedObjects settings pass.cp target.namespaceName amqps internal) :
    (w.happen settings (.pass ns name)).cluster.object? o.address =
      some ((o.ownedBy target.owner).keepingStatus (w.cluster.object? o.address)) :=
  (World.objectAt_pass pass o.address).1.trans
    (Part.objectAt_run_singleton (storedAt_replaced pass.parts router controller portManager h))

theorem object?_leaf {o : Object} {leafName : String} (whole : ca.certificate.key = ca.key)
    (h : o ∈ replacedObjects settings pass.cp target.namespaceName amqps internal)
    (leaf : IsLeaf target.namespaceName ca address leafName o) :
    ∃ secret, (w.happen settings (.pass ns name)).cluster.object?
        ⟨.secret, target.namespaceName, leafName⟩ = some (.secret secret) ∧
      secret.metadata.ownerReferences = some [target.owner] ∧
      Certifies secret address ca.certificate := by
  obtain ⟨secret, hsecret, owned, certifies⟩ := leaf.certifies whole target.owner
  have stored := object?_replaced pass router controller portManager h
  rw [leaf.address_eq, hsecret, Object.keepingStatus_secret] at stored
  exact ⟨secret, stored, owned, certifies⟩

theorem knownAddress_pass :
    knownAddress? pass.cp ((w.happen settings (.pass ns name)).cluster.object?
        ⟨.service, target.namespaceName, Router.name⟩) = some address ∧ host = address := by
  obtain ⟨final, admitted⟩ := World.objectAt_pass pass ⟨.service, target.namespaceName, Router.name⟩
  rw [final]
  exact knownAddress_run pass.parts router controller portManager admitted

end Pass

/-- A pass that makes a control plane ready has brought it about. -/
theorem converged_of_ready {w : World} {ns name : String} (whole : AuthoritiesWhole settings.pem w)
    (ready : w.readies settings ns name) :
    ∃ cp target, w.cluster.controlPlane? ns name = some cp ∧ Target.of cp = .ok target ∧
      Converged settings cp target w (w.happen settings (.pass ns name)) := by
  obtain ⟨pass, clean⟩ := (visits_of_plays (w.plays_trace _)).exists_pass_of_ready ready
  obtain ⟨cleanR, cleanC, cleanP⟩ : pass.parts.routerOutcome.isClean ∧
      pass.parts.controllerOutcome.isClean ∧ pass.parts.portManagerOutcome.isClean := by
    simpa [Parts.isClean] using clean
  obtain ⟨target, address, ca, amqps, internal, router⟩ :=
    cleanRouter pass.parts.playsRouter cleanR
  obtain ⟨target', host, controller⟩ := cleanController pass.parts.playsController cleanC
  obtain ⟨target'', portManager⟩ := cleanPortManager pass.parts.playsPortManager cleanP
  obtain rfl := Except.ok.inj (router.target_eq.symm.trans controller.target_eq)
  obtain rfl := Except.ok.inj (router.target_eq.symm.trans portManager.target_eq)
  obtain ⟨known, rfl⟩ := knownAddress_pass pass router controller portManager
  obtain ⟨final, admitted⟩ := World.objectAt_pass pass
    ⟨.secret, target.namespaceName, Router.authoritySecretName⟩
  obtain ⟨authority, stored, loaded, hkey⟩ :=
    authority_stored pass.parts router admitted (whole _)
  have accounts := World.accountsAt_pass pass (internalUrl target.namespaceName)
  obtain ⟨user, registered⟩ := controller.interface
    (w.api (internalUrl target.namespaceName)).router accounts.2
  refine ⟨pass.cp, target, World.found_of_pass pass, router.target_eq, ?_⟩
  constructor
  case declared =>
    exact fun o ho => object?_replaced pass router controller portManager
      (mem_replacedObjects.2 (.inl ho))
  case certified =>
    refine ⟨host, authority, ca, known, final.trans stored, loaded, fun leafName h => ?_,
      (World.routerAt_pass pass _).trans registered⟩
    rcases List.mem_cons.1 h with rfl | h
    · exact object?_leaf pass router controller portManager hkey
        (mem_replacedObjects.2 (.inr (.inl rfl))) router.amqps_leaf
    · obtain rfl := List.mem_singleton.1 h
      exact object?_leaf pass router controller portManager hkey
        (mem_replacedObjects.2 (.inr (.inr rfl))) router.internal_leaf
  case known =>
    have final := congrArg (fun a : Accounts => a.users.get? pass.cp.spec.user.email) accounts.1
    exact final.trans user
  case others =>
    intro a declared secrets
    rw [(World.objectAt_pass pass a).1, Part.objectAt_run_of_nil
      (storedAt_other pass.parts router controller portManager declared secrets)]

end EdgePlane.Reconcile
