import EdgePlane.Proofs.Assurance
import EdgePlane.Proofs.DatabaseRestart
import EdgePlane.Proofs.Misreading

/-!
# Standstill

In a world that lacks nothing, another pass finds every object as it is declared and stores it as it was,
tells the interface what it knows, and does not have to wait. So it comes out clean, and all that it leaves
behind are fresh keys in the certificates of the router.

One defect stands against this. An error of the registration ought to end the pass, but one whose text holds
the words for a wrong password is taken for a refused login: the password is then changed to itself, and the
pods of the port manager are replaced in every pass.
-/

namespace EdgePlane

open Kubernetes Management Simulation

namespace Kubernetes.Object

/-- What an object has kept it keeps again. -/
theorem keepingStatus_keepingStatus (o : Object) (old : Option Object) :
    o.keepingStatus (some (o.keepingStatus old)) = o.keepingStatus old := by
  cases o with
  | service s =>
    obtain ⟨metadata, spec, status⟩ := s
    cases status <;> rcases old with _ | old <;> first | rfl | (cases old <;> rfl)
  | deployment d =>
    obtain ⟨metadata, spec, status⟩ := d
    cases status <;> rcases old with _ | old <;> first | rfl | (cases old <;> rfl)
  | _ => simp [keepingStatus]

end Kubernetes.Object

/-- Whether an interface still has the users and the router that it had, and goes on as it did. -/
structure Simulation.ApiServer.Unmoved (s s' : ApiServer) : Prop where
  users : s'.users = s.users
  router : s'.router = s.router
  lasts : s.Lasts s'

namespace Simulation.ApiServer

variable {s : ApiServer} {url email password : String}

theorem Unmoved.trans {s s' s'' : ApiServer} (h : s.Unmoved s') (h' : s'.Unmoved s'') : s.Unmoved s'' :=
  ⟨h'.users.trans h.users, h'.router.trans h.router, h.lasts.trans h'.lasts⟩

theorem Accepts.status (h : s.Accepts) (url : String) :
    (∃ report, (s.status url).1 = .ok report) ∧ s.Unmoved (s.status url).2 := by
  refine ⟨⟨⟨"online", none, none⟩, ?_⟩, s.users_status url, ?_, s.lasts_status url⟩
  · simp [ApiServer.status, h.connects, report, h.reports]
  · simp [ApiServer.status, h.connects]

/-- The answer to the registration of a user who is known. -/
theorem signUp_of_known (url : String) (request : SignUp)
    (known : s.users.get? request.email = some password) :
    (s.signUp url request).1 = .error (if s.signUpBroken then serverError url "/user/signup"
      else accountExists) ∧ s.Unmoved (s.signUp url request).2 := by
  have lasts := s.lasts_signUp url request
  cases broken : s.signUpBroken <;>
  · simp only [signUp, broken, Dict.contains, known] at lasts ⊢
    exact ⟨rfl, rfl, rfl, lasts⟩

theorem logIn_of_right (right : s.users.get? email = some password) :
    ∃ token, (s.logIn ⟨email, password⟩).1 = .ok ⟨token⟩ ∧
      ((s.logIn ⟨email, password⟩).2.tokens.get? token).isSome ∧
      s.Unmoved (s.logIn ⟨email, password⟩).2 := by
  have lasts := s.lasts_logIn ⟨email, password⟩
  simp only [logIn, right] at lasts ⊢
  exact ⟨_, rfl, by simp, rfl, rfl, lasts⟩

/-- Registering the router that is registered. -/
theorem putRouter_again {token : String} {router : DefaultRouter} (held : (s.tokens.get? token).isSome)
    (registered : s.router = some router) :
    (s.putRouter token router).1 = .ok () ∧ s.Unmoved (s.putRouter token router).2 := by
  have lasts := s.lasts_putRouter token router
  obtain ⟨email, holder⟩ := Option.isSome_iff_exists.1 held
  have done : s.putRouter token router = (.ok (), { s with router := some router }) := by
    rw [putRouter, holder]
  rw [done] at lasts ⊢
  exact ⟨rfl, rfl, registered.symm, lasts⟩

end Simulation.ApiServer

/-- In a world a call has a single answer. -/
theorem Program.finishes_perform_here {c : Call} {P : c.Reply → World → Prop} {v : World}
    (awake : c.isSleep = false) (h : P (World.answer c v).1 (World.answer c v).2) :
    (Program.perform c).Finishes P v := by
  refine .perform awake fun r v' answered => ?_
  obtain rfl : (World.answer c v).1 = r := congrArg Prod.fst answered
  obtain rfl : (World.answer c v).2 = v' := congrArg Prod.snd answered
  exact h

/-- Whatever a program does, each interface lasts. -/
theorem Program.Finishes.lasts {α : Type} {p : Program α} {Q : α → World → Prop} {v : World}
    (h : p.Finishes Q v) : p.Finishes (fun a v' => Q a v' ∧ ∀ url, (v.api url).Lasts (v'.api url)) v := by
  induction p generalizing v with
  | pure a => exact ⟨h, fun _ => .refl _⟩
  | call c k ih =>
    refine ⟨h.1, fun r v' answered => (ih r (h.2 r v' answered)).mono fun a v'' ⟨done, lasts⟩ => ?_⟩
    obtain rfl : (World.answer c v).2 = v' := congrArg Prod.snd answered
    exact ⟨done, fun url => (World.lasts_answer url c v).trans (lasts url)⟩

theorem Attempt.Succeeds.lasts {α : Type} {x : Attempt α} {P : α → World → Prop} {v : World}
    (h : x.Succeeds P v) : x.Succeeds (fun a v' => P a v' ∧ ∀ url, (v.api url).Lasts (v'.api url)) v :=
  Program.Finishes.mono (Program.Finishes.lasts h) fun _ _ ⟨⟨a, done, ha⟩, lasts⟩ => ⟨a, done, ha, lasts⟩

namespace Reconcile

/-- Whether two leaf secrets of a name hold certificates of one authority for one address, and differ in the
key that was drawn at most. -/
def Reissued (ns name : String) (o o' : Object) : Prop :=
  ∃ ca address alternative owner fresh fresh',
    o = (leafSecret ns ca address alternative name fresh).ownedBy owner ∧
      o' = (leafSecret ns ca address alternative name fresh').ownedBy owner

/-- Whether an address is that of a certificate of the router. -/
def IsLeafAddress (ns : String) (a : Address) : Prop :=
  ∃ name ∈ Router.leafSecretNames, a = ⟨.secret, ns, name⟩

theorem not_leafAddress_of_name {ns : String} {a : Address} (h : a.name ∉ Router.leafSecretNames) :
    ¬ IsLeafAddress ns a := by
  rintro ⟨name, hname, rfl⟩
  exact h hname

theorem not_leafAddress_of_kind {ns : String} {a : Address} (h : a.kind ≠ .secret) :
    ¬ IsLeafAddress ns a := by
  rintro ⟨name, -, rfl⟩
  exact h rfl

/-- Whether nothing was created in a cluster, and all that was replaced by something else are certificates
of the router, with fresh keys. The pods in `again` were replaced. -/
structure Unaltered (ns : String) (again : List String) (c c' : Cluster) : Prop where
  objects : ∀ a, ¬ IsLeafAddress ns a → c'.object? a = c.object? a
  leaves : ∀ name ∈ Router.leafSecretNames, ∃ o o', c.object? ⟨.secret, ns, name⟩ = some o ∧
    c'.object? ⟨.secret, ns, name⟩ = some o' ∧ Reissued ns name o o'
  creates : c'.creates = c.creates
  restarts : c'.restarts = c.restarts ++ again

/-- Whether a world without faults is as it was, but for fresh keys in the certificates of the router and
the restarts `again`. -/
structure Unmoved (ns : String) (again : List String) (w v : World) : Prop where
  reliable : v.faults = []
  cluster : Unaltered ns again w.cluster v.cluster
  interfaces : ∀ url, (w.api url).Unmoved (v.api url)

variable {ns : String} {again : List String} {w v v' : World} {o : Object}

/-- Replacing an object by what stands there anyway. -/
theorem Unaltered.apply {c c' : Cluster} (h : Unaltered ns again c c') (apart : ¬ IsLeafAddress ns o.address)
    (same : some (o.keepingStatus (c.object? o.address)) = c.object? o.address) :
    Unaltered ns again c (c'.apply o).2 := by
  have objects (a : Address) : (c'.apply o).2.object? a = c'.object? a := by
    rw [Cluster.object?_apply]
    split
    · rename_i here
      rw [here, h.objects _ apart, same]
    · rfl
  refine ⟨fun a ha => by rw [objects, h.objects a ha], fun name hname => ?_, h.creates, h.restarts⟩
  rw [objects]
  exact h.leaves name hname

/-- Replacing a certificate of the router by one with a fresh key. -/
theorem Unaltered.reissue {c c' : Cluster} (h : Unaltered ns again c c') {name : String} {old : Object}
    (hname : name ∈ Router.leafSecretNames) (here : o.address = ⟨.secret, ns, name⟩)
    (stood : c.object? o.address = some old) (reissued : Reissued ns name old o) :
    Unaltered ns again c (c'.apply o).2 := by
  have kept (old : Option Object) : o.keepingStatus old = o := by
    obtain ⟨ca, address, alternative, owner, fresh, fresh', -, rfl⟩ := reissued
    exact Object.keepingStatus_secret ..
  refine ⟨fun a ha => ?_, fun name' hname' => ?_, h.creates, h.restarts⟩
  · rw [Cluster.object?_apply, if_neg, h.objects a ha]
    rintro rfl
    exact ha ⟨name, hname, here⟩
  · rw [Cluster.object?_apply, kept]
    split
    · rename_i same
      obtain rfl : name' = name := congrArg Address.name (same.trans here)
      exact ⟨old, o, by rw [← here, stood], rfl, reissued⟩
    · exact h.leaves name' hname'

/-- The pods of a deployment are replaced. -/
theorem Unaltered.restart {c c' : Cluster} (h : Unaltered ns again c c') {name : String}
    (there : (c'.object? ⟨.deployment, ns, name⟩).isSome) :
    (c'.restart ns name).1 = .ok () ∧
      Unaltered ns (again ++ [ns ++ "/" ++ name]) c (c'.restart ns name).2 := by
  have stands : (c'.object? ⟨.deployment, ns, name⟩).isNone = false :=
    Option.isNone_eq_false_iff.2 there
  have restarted : c'.restart ns name =
      (.ok (), { c' with restarts := c'.restarts ++ [ns ++ "/" ++ name] }) := by
    rw [Cluster.restart, stands]
    rfl
  rw [restarted]
  refine ⟨rfl, h.objects, h.leaves, h.creates, ?_⟩
  dsimp only
  rw [h.restarts, List.append_assoc]

namespace Unmoved

/-- After a call of the cluster. -/
theorem ofCluster {α : Type} {again' : List String} (h : Unmoved ns again w v) {c : Call}
    (f : Cluster → Except Failure α × Cluster) (same : (World.answer c v).2 = (v.askCluster c f).2)
    (unaltered : Unaltered ns again' w.cluster (f v.cluster).2) :
    Unmoved ns again' w (World.answer c v).2 := by
  refine ⟨World.faults_answer c v h.reliable, ?_, fun url => ?_⟩
  · rwa [same, (World.askCluster_of_reliable h.reliable c f).2]
  · rw [same, World.api_of_apis (World.askCluster_cases v c f).1]
    exact h.interfaces url

/-- After a question to an interface. -/
theorem ofApi {α : Type} (h : Unmoved ns again w v) {c : Call} {url : String}
    (f : ApiServer → Except ApiError α × ApiServer) (same : (World.answer c v).2 = (v.askApi c url f).2)
    (unmoved : (v.api url).Unmoved (f (v.api url)).2) : Unmoved ns again w (World.answer c v).2 := by
  refine ⟨World.faults_answer c v h.reliable, ?_, fun u => ?_⟩
  · rw [same, (World.askApi_cases v c url f).1]
    exact h.cluster
  · rw [same, (World.askApi_of_reliable h.reliable c url f).2]
    split
    · rename_i here
      subst here
      exact (h.interfaces u).trans unmoved
    · exact h.interfaces u

/-- After a call that neither of them takes notice of. -/
theorem ofRest (h : Unmoved ns again w v) {c : Call} (cluster : (World.answer c v).2.cluster = v.cluster)
    (apis : (World.answer c v).2.apis = v.apis) : Unmoved ns again w (World.answer c v).2 := by
  refine ⟨World.faults_answer c v h.reliable, by rw [cluster]; exact h.cluster, fun url => ?_⟩
  rw [World.api_of_apis apis]
  exact h.interfaces url

end Unmoved

/-- `Repeats ns w Q x`: in whatever world the world `w` has not moved from, the attempt `x` succeeds with a
result of which `Q` holds, without sleeping, and the world still has not moved. -/
def Repeats {α : Type} (ns : String) (w : World) (Q : α → Prop) (x : Attempt α) : Prop :=
  ∀ again v, Unmoved ns again w v → x.Succeeds (fun a v' => Q a ∧ Unmoved ns again w v') v

namespace Repeats

variable {α β : Type} {Q : α → Prop} {R : β → Prop} {x : Attempt α} {f : α → Attempt β}

theorem andThen {P : Except Failure β → World → Prop} (hx : Repeats ns w Q x) (h : Unmoved ns again w v)
    (hf : ∀ a, Q a → ∀ v', Unmoved ns again w v' → (f a).Finishes P v') : (x >>= f).Finishes P v :=
  (hx again v h).bind fun a v' ⟨ha, h'⟩ => hf a ha v' h'

theorem bind (hx : Repeats ns w Q x) (hf : ∀ a, Q a → Repeats ns w R (f a)) : Repeats ns w R (x >>= f) :=
  fun again _ h => hx.andThen h fun a ha v' h' => hf a ha again v' h'

theorem pure {a : α} (ha : Q a) : Repeats ns w Q (Pure.pure a) :=
  fun _ _ h => Attempt.Finishes.pure ⟨a, rfl, ha, h⟩

/-- An attempt that makes a single call. -/
theorem ofCall {c : Call} (awake : c.isSleep = false) (k : c.Reply → Except Failure α)
    (run : x.run = .call c fun r => .pure (k r))
    (h : ∀ again v, Unmoved ns again w v →
      (∃ a, k (World.answer c v).1 = .ok a ∧ Q a) ∧ Unmoved ns again w (World.answer c v).2) :
    Repeats ns w Q x := by
  intro again v unmoved
  obtain ⟨⟨a, done, ha⟩, unmoved'⟩ := h again v unmoved
  refine (Attempt.succeeds_of_answers (a := a) (t := (World.answer c v).2) awake k run
    fun r v' answered => ?_).mono ?_
  · obtain rfl : (World.answer c v).1 = r := congrArg Prod.fst answered
    exact ⟨done, (congrArg Prod.snd answered).symm⟩
  · rintro _ _ ⟨rfl, rfl⟩
    exact ⟨ha, unmoved'⟩

variable {name url : String} {a : Address} {owner : OwnerReference}

/-- What stands at an address is found: the same, or another certificate. -/
theorem get : Repeats ns w (fun found => (¬ IsLeafAddress ns a → found = w.cluster.object? a) ∧
    ((w.cluster.object? a).isSome → found.isSome)) (Attempt.get a) := by
  refine ofCall (c := .get a) rfl id rfl fun again v h => ⟨⟨_, World.get_of_reliable h.reliable a, ?_⟩, ?_⟩
  · refine ⟨fun apart => h.cluster.objects a apart, fun stood => ?_⟩
    by_cases leaf : IsLeafAddress ns a
    · obtain ⟨name, hname, rfl⟩ := leaf
      obtain ⟨o, o', -, now, -⟩ := h.cluster.leaves name hname
      rw [now]
      rfl
    · rw [h.cluster.objects a leaf]
      exact stood
  · exact h.ofCluster (fun c => (.ok (c.object? a), c)) rfl h.cluster

theorem connect (url : String) : Repeats ns w (fun _ => True) (Attempt.connect url) := by
  refine ofCall (c := .connect url) rfl id rfl fun again v h => ?_
  obtain ⟨cluster, apis, -⟩ := World.openClient_rest v url
  exact ⟨⟨(), World.openClient_of_reliable h.reliable url, trivial⟩, h.ofRest cluster apis⟩

theorem drawKey : Repeats ns w (fun _ => True) Attempt.drawKey :=
  ofCall (c := .drawKey) rfl .ok rfl fun _ _ h => ⟨⟨_, rfl, trivial⟩, h.ofRest rfl rfl⟩

/-- A secret other than the router's certificates. -/
theorem getSecret (apart : name ∉ Router.leafSecretNames) : Repeats ns w
    (fun secret => secret = (w.cluster.object? ⟨.secret, ns, name⟩).bind (·.secret?))
    (Attempt.getSecret ns name) := by
  refine get.bind fun found ⟨same, _⟩ => .pure ?_
  rw [same (not_leafAddress_of_name apart)]

theorem discoverAddress : Repeats ns w
    (fun address => address = externalAddress? (w.cluster.object? ⟨.service, ns, name⟩))
    (Attempt.discoverAddress ns name) := by
  refine get.bind fun found ⟨same, _⟩ => .pure ?_
  rw [same (not_leafAddress_of_kind (by simp))]
  rfl

/-- An object that stands may be replaced if that alters nothing. -/
theorem replace (stood : (w.cluster.object? o.address).isSome)
    (applied : ∀ again c, Unaltered ns again w.cluster c →
      Unaltered ns again w.cluster (c.apply (o.ownedBy owner)).2) :
    Repeats ns w (fun r => r.existed = true) (EdgePlane.sync owner .apply o) := by
  refine get.bind fun found ⟨_, there⟩ => ?_
  rw [Object.address_ownedBy] at there
  obtain ⟨o', rfl⟩ := Option.isSome_iff_exists.1 (there stood)
  have repeats : Repeats ns w (fun _ => True) (Attempt.apply (o.ownedBy owner)) :=
    ofCall (c := .apply _) rfl id rfl fun again v h =>
      ⟨⟨(), (World.askCluster_of_reliable h.reliable _ (·.apply (o.ownedBy owner))).1, trivial⟩,
        h.ofCluster (·.apply (o.ownedBy owner)) rfl (applied again _ h.cluster)⟩
  exact repeats.bind fun _ _ => .pure rfl

/-- Where an object stands as it is declared, it is replaced by itself. -/
theorem sync (apart : ¬ IsLeafAddress ns o.address) (stood : ∃ old,
      w.cluster.object? o.address = some ((o.ownedBy owner).keepingStatus old)) :
    Repeats ns w (fun r => r.existed = true) (EdgePlane.sync owner .apply o) := by
  obtain ⟨old, stood⟩ := stood
  refine replace (by rw [stood]; rfl) fun again c h => h.apply ?_ ?_
  · rwa [Object.address_ownedBy]
  · rw [Object.address_ownedBy, stood, Object.keepingStatus_keepingStatus]

/-- What is created only once is left alone. -/
theorem syncOnce (stood : (w.cluster.object? o.address).isSome) :
    Repeats ns w (fun _ => True) (EdgePlane.sync owner .createOnly o) := by
  refine get.bind fun found ⟨_, there⟩ => ?_
  rw [Object.address_ownedBy] at there
  obtain ⟨o', rfl⟩ := Option.isSome_iff_exists.1 (there stood)
  exact .pure trivial

end Repeats

section Parts

variable {settings : Setup} {cp : ControlPlane} {target : Target} {host : String}
  {alternative : AlternativeName} {ca : KeyedCertificate}
  (done : Accomplished settings cp target host alternative ca w)
include done

/-- To begin with, nothing has moved. -/
theorem unmoved_self : Unmoved target.namespaceName [] w w where
  reliable := done.reliable
  cluster := by
    refine ⟨fun _ _ => rfl, fun name hname => ?_, rfl, by simp⟩
    obtain ⟨fresh, stood⟩ := done.leaves name hname
    exact ⟨_, _, stood, stood, ca, host, alternative, target.owner, fresh, fresh, rfl, rfl⟩
  interfaces _ := ⟨rfl, rfl, .refl _⟩

/-- Whatever is declared is replaced by itself. -/
theorem repeats_syncObject {o : Object} (declared : o ∈ declaredObjects settings cp target.namespaceName) :
    Repeats target.namespaceName w (fun r => r.existed = true) (target.syncObject o) := by
  refine .sync ?_ (done.declared o declared)
  by_cases secret : o.kind = .secret
  · refine not_leafAddress_of_name ?_
    have named : o.address.name = Controller.databaseSecretName := name_of_declared_secret declared secret
    rw [named]
    decide
  · exact not_leafAddress_of_kind secret

theorem repeats_syncIdentity {component : Component}
    (declared : ∀ o ∈ component.objects target.namespaceName,
      o ∈ declaredObjects settings cp target.namespaceName) :
    Repeats target.namespaceName w (fun _ => True) (target.syncIdentity component) := by
  have identity {o : Object} (h : o ∈ component.identity target.namespaceName) :=
    repeats_syncObject done (declared o (by simp [Component.objects, h]))
  refine (identity (by simp [Component.identity])).bind fun _ _ => ?_
  split
  · rename_i rules
    have rules : component.rules.isEmpty = false := by simpa using rules
    refine (identity (by simp [Component.identity, rules])).bind fun _ _ => ?_
    exact (identity (by simp [Component.identity, rules])).bind fun _ _ => .pure trivial
  · exact .pure trivial

theorem repeats_syncService {component : Component}
    (declared : ∀ o ∈ component.objects target.namespaceName,
      o ∈ declaredObjects settings cp target.namespaceName) :
    Repeats target.namespaceName w (fun _ => True) (target.syncService component) := by
  unfold Target.syncService
  split
  · rename_i service found
    refine (repeats_syncObject done (declared _ ?_)).bind fun _ _ => .pure trivial
    simp [Component.objects, Component.services, found]
  · exact .pure trivial

/-- The address of the router is the one that is known. -/
theorem repeats_routerAddress :
    Repeats target.namespaceName w (· = some host) (routerAddress cp target.namespaceName) := by
  have known := done.known
  unfold knownAddress? at known
  unfold routerAddress
  dsimp only
  split
  · rename_i balanced
    rw [if_pos balanced] at known
    intro again v h
    refine (Repeats.discoverAddress again v h).mono fun address v' ⟨seen, h'⟩ => ⟨?_, h'⟩
    rw [seen, known]
  · rename_i declared
    rw [if_neg declared] at known
    split
    · rename_i empty
      have named := done.named
      rw [← Option.some.inj known, KeyedCertificate.alternativeName, if_pos empty] at named
      cases named
    · exact .pure known

theorem repeats_routerAuthority :
    Repeats target.namespaceName w (· = ca) (routerAuthority settings.pem target) := by
  obtain ⟨secret, stood, loaded⟩ := done.authority
  refine (Repeats.getSecret (by decide)).bind ?_
  rintro _ rfl
  rw [stood]
  change Repeats _ w _ (Attempt.ofExcept ((KeyedCertificate.ofSecret settings.pem secret).mapError .issuer))
  rw [loaded]
  exact .pure rfl

theorem repeats_syncLeaf {name : String} (leaf : name ∈ Router.leafSecretNames) :
    Repeats target.namespaceName w (fun _ => True) (syncLeaf target ca host name) := by
  obtain ⟨fresh, stood⟩ := done.leaves name leaf
  unfold syncLeaf
  rw [done.named]
  refine Repeats.bind (Q := (alternative = ·)) (.pure rfl) ?_
  rintro _ rfl
  refine Repeats.drawKey.bind fun fresh' _ => ?_
  have here : (leafSecret target.namespaceName ca host alternative name fresh').address =
      ⟨.secret, target.namespaceName, name⟩ := rfl
  refine (Repeats.replace (o := leafSecret target.namespaceName ca host alternative name fresh') ?_
    fun again c h => h.reissue leaf ?_ ?_ ⟨ca, host, alternative, target.owner, fresh, fresh', rfl, rfl⟩).bind
      fun _ _ => .pure trivial
  · rw [here, stood]
    rfl
  · rw [Object.address_ownedBy, here]
  · rw [Object.address_ownedBy, here, stood]

theorem repeats_attemptRouter (htarget : Target.of cp = .ok target) :
    Repeats target.namespaceName w (· = .proceed) (attemptRouter settings cp) := by
  have declared (o : Object) (h : o ∈ (routerOf settings cp).objects target.namespaceName) :
      o ∈ declaredObjects settings cp target.namespaceName := by simp [declaredObjects, h]
  unfold attemptRouter
  rw [htarget, Attempt.ofExcept_ok_bind]
  refine (repeats_syncIdentity done declared).bind fun _ _ => ?_
  refine (repeats_syncService done declared).bind fun _ _ => ?_
  refine (repeats_routerAddress done).bind ?_
  rintro _ rfl
  refine (repeats_routerAuthority done).bind ?_
  rintro ca' rfl
  have leaves : Repeats target.namespaceName w (fun _ => True)
      (Router.leafSecretNames.forM (syncLeaf target ca' host)) :=
    (repeats_syncLeaf done (by simp [Router.leafSecretNames])).bind fun _ _ =>
      (repeats_syncLeaf done (by simp [Router.leafSecretNames])).bind fun _ _ => .pure trivial
  refine leaves.bind fun _ _ => ?_
  refine (repeats_syncObject done (declared _ ?_)).bind fun _ _ => .pure rfl
  simp [Component.objects, routerOf]

theorem repeats_attemptPortManager (htarget : Target.of cp = .ok target) :
    Repeats target.namespaceName w (· = .proceed) (attemptPortManager settings cp) := by
  have declared (o : Object)
      (h : o ∈ (portManagerOf settings cp target.namespaceName).objects target.namespaceName) :
      o ∈ declaredObjects settings cp target.namespaceName := by simp [declaredObjects, h]
  unfold attemptPortManager
  rw [htarget, Attempt.ofExcept_ok_bind]
  refine (repeats_syncIdentity done declared).bind fun _ _ => ?_
  refine (Repeats.syncOnce done.credentials).bind fun _ _ => ?_
  refine (repeats_syncObject done (declared _ ?_)).bind fun _ _ => .pure rfl
  simp [Component.objects, portManagerOf]

/-- The settings of the database have not changed. -/
theorem repeats_syncController : Repeats target.namespaceName w (· = (true, false))
    (syncController settings target cp) := by
  have declared (o : Object) (h : o ∈ (controllerOf settings cp).objects target.namespaceName) :
      o ∈ declaredObjects settings cp target.namespaceName := by simp [declaredObjects, h]
  have database : (.secret (databaseSecretOf cp target.namespaceName) : Object) ∈
      declaredObjects settings cp target.namespaceName := by simp [declaredObjects]
  obtain ⟨old, stood⟩ := done.declared _ database
  have stood : w.cluster.object? (databaseAddress target.namespaceName) =
      some (declaredSettings cp target.namespaceName target.owner) :=
    stood.trans (congrArg some (Object.keepingStatus_secret _ _))
  have unchanged : isDatabaseChanged cp target.namespaceName
      (w.cluster.object? (databaseAddress target.namespaceName)) = false := by
    rw [stood]
    exact isDatabaseChanged_declared rfl target.owner
  unfold syncController
  refine (repeats_syncIdentity done declared).bind fun _ _ => ?_
  refine (Repeats.getSecret (by decide)).bind ?_
  rintro _ rfl
  refine (repeats_syncObject done database).bind fun _ _ => ?_
  refine (repeats_syncService done declared).bind fun _ _ => ?_
  have deployment : Repeats target.namespaceName w (fun r => r.existed = true) (target.syncObject
      (.deployment ((controllerOf settings cp).deployment target.namespaceName))) :=
    repeats_syncObject done (declared _ (by simp [Component.objects]))
  have ending := deployment.bind (R := (· = (true, false))) (f := fun d => pure (d.existed,
    isDatabaseChanged cp target.namespaceName
      (w.cluster.object? (databaseAddress target.namespaceName)))) fun d existed =>
        .pure (by rw [existed, unchanged])
  dsimp only
  split
  · rename_i claimed
    refine (repeats_syncObject done ?_).bind fun _ _ => ending
    simp [declaredObjects, claims, (by simpa using claimed : cp.spec.database.isExternal = false)]
  · exact ending

theorem repeats_verifyPullSecret (pull : cp.spec.images.pullSecret ∉ operatorSecrets)
    (given : cp.spec.images.pullSecret ≠ "") : Repeats target.namespaceName w (fun _ => True)
    (verifyPullSecret target.namespaceName cp.spec.images.pullSecret) := by
  obtain ⟨secret, found, right⟩ := done.pulls.resolve_left given
  refine (Repeats.getSecret fun leaf => pull ?_).bind ?_
  · simp [operatorSecrets, replacedSecrets, leaf]
  · rintro _ rfl
    rw [found]
    dsimp only
    rw [if_pos right]
    exact .pure trivial

end Parts

section Talk

variable {url email password : String}

/-- An interface that accepts connections is available at once. -/
theorem repeats_waitUntilAvailable {limit : RetryLimit} (accepts : (w.api url).Accepts)
    (tries : limit.attempts ≠ 0) :
    Repeats ns w (fun _ => True) (Bootstrap.waitUntilAvailable url limit) := by
  obtain ⟨n, tries⟩ := Nat.exists_eq_succ_of_ne_zero tries
  have told : Repeats ns w (fun answer => ∃ report, answer = .ok report)
      (Attempt.exactly (.perform (.status url))) := by
    refine .ofCall (c := .status url) rfl .ok rfl fun again v h => ?_
    obtain ⟨⟨report, told⟩, unmoved⟩ := ((h.interfaces url).lasts.accepts accepts).status url
    refine ⟨⟨_, rfl, report, ?_⟩, h.ofApi (·.status url) rfl unmoved⟩
    exact (World.askApi_of_reliable h.reliable (.status url) url (·.status url)).1.trans told
  unfold Bootstrap.waitUntilAvailable
  rw [tries]
  refine told.bind ?_
  rintro _ ⟨report, rfl⟩
  exact .pure trivial

/-- Whether a session has a token that its interface knows. -/
def Holds (url : String) (session : Session) (v : World) : Prop :=
  ((v.api url).tokens.get? session.token).isSome

/-- A login with the right password. -/
theorem succeeds_logIn (h : Unmoved ns again w v) (right : (w.api url).users.get? email = some password) :
    (Bootstrap.logIn url email password).Succeeds
      (fun session v' => Unmoved ns again w v' ∧ Holds url session v') v := by
  rw [← (h.interfaces url).users] at right
  obtain ⟨token, answered, held, unmoved⟩ := ApiServer.logIn_of_right right
  obtain ⟨reply, now⟩ := World.askApi_of_reliable h.reliable (.logIn url ⟨email, password⟩) url
    (·.logIn ⟨email, password⟩)
  have asked : (Program.perform (.logIn url ⟨email, password⟩)).Finishes
      (fun r v' => r = .ok ⟨token⟩ ∧ Unmoved ns again w v' ∧ Holds url ⟨url, token⟩ v') v := by
    refine Program.finishes_perform_here rfl
      ⟨reply.trans answered, h.ofApi (·.logIn ⟨email, password⟩) rfl unmoved, ?_⟩
    have known := now url
    rw [if_pos rfl] at known
    exact (congrArg (fun s : ApiServer => (s.tokens.get? token).isSome) known).trans held
  refine (Attempt.finishes_viaApi asked).bind ?_ ?_
  · rintro answer v' ⟨_, same, rfl, h', held⟩
    obtain rfl := Except.ok.inj same
    exact .pure ⟨_, rfl, h', held⟩
  · rintro e v' ⟨_, same, rfl, -⟩
    cases same

/-- The router is registered as it is already. -/
theorem succeeds_registerRouter (h : Unmoved ns again w v) {session : Session} (held : Holds url session v)
    {router : DefaultRouter} (registered : (w.api url).router = some router) :
    (Bootstrap.registerRouter url session router).Succeeds (fun _ v' => Unmoved ns again w v') v := by
  rw [← (h.interfaces url).router] at registered
  obtain ⟨answered, unmoved⟩ := ApiServer.putRouter_again held registered
  have asked : (Program.perform (.putRouter url session.token router)).Finishes
      (fun r v' => r = .ok () ∧ Unmoved ns again w v') v := by
    have reply := (World.askApi_of_reliable h.reliable (.putRouter url session.token router) url
      (·.putRouter session.token router)).1
    exact Program.finishes_perform_here rfl
      ⟨reply.trans answered, h.ofApi (·.putRouter session.token router) rfl unmoved⟩
  refine (Attempt.finishes_viaApi asked).mono ?_
  rintro _ v' ⟨_, rfl, rfl, h'⟩
  exact ⟨(), rfl, h'⟩

/-- The answer to the registration of a user who is known tells so, unless registering is broken. -/
theorem repeats_signUp (request : SignUp) (known : (w.api url).users.get? request.email = some password) :
    Repeats ns w (· = .error (if (w.api url).signUpBroken then
        ApiServer.serverError url "/user/signup" else ApiServer.accountExists))
      (Attempt.exactly (.perform (.signUp url request))) := by
  refine .ofCall (c := .signUp url request) rfl .ok rfl fun again v h => ?_
  rw [← (h.interfaces url).users] at known
  obtain ⟨answered, unmoved⟩ := ApiServer.signUp_of_known url request known
  rw [(h.interfaces url).lasts.signUpBroken] at answered
  exact ⟨⟨_, rfl, (World.askApi_of_reliable h.reliable (.signUp url request) url
    (·.signUp url request)).1.trans answered⟩, h.ofApi (·.signUp url request) rfl unmoved⟩

theorem succeeds_restart {name : String} (h : Unmoved ns again w v)
    (there : (w.cluster.object? ⟨.deployment, ns, name⟩).isSome) :
    (Attempt.restart ns name).Succeeds
      (fun _ v' => Unmoved ns (again ++ [ns ++ "/" ++ name]) w v') v := by
  rw [← h.cluster.objects _ (not_leafAddress_of_kind (by simp))] at there
  obtain ⟨done, unaltered⟩ := h.cluster.restart there
  have reply := (World.askCluster_of_reliable h.reliable (.restart ns name) (·.restart ns name)).1
  refine Program.finishes_perform_here (c := .restart ns name) rfl ⟨(), reply.trans done, ?_⟩
  exact h.ofCluster (·.restart ns name) rfl unaltered

/-- A token that an interface knows it knows from then on. -/
theorem Holds.lasts {session : Session} (h : Holds url session v)
    (lasts : ∀ url, (v.api url).Lasts (v'.api url)) : Holds url session v' :=
  (lasts url).tokens _ h

end Talk

section Session

variable {target : Target} {url : String} {user : ControlPlane.User}

/-- The password that the port manager holds is the declared one. -/
theorem repeats_storedPassword {email : String}
    (stored : w.cluster.object? (credentialsAddress target.namespaceName) =
      some ((credentialsOf target user).ownedBy target.owner)) :
    Repeats target.namespaceName w (user.password = ·) (storedPassword target.namespaceName email) := by
  unfold storedPassword
  refine (Repeats.getSecret (by decide)).bind ?_
  rintro _ rfl
  change w.cluster.object? ⟨.secret, target.namespaceName, PortManager.credentialsSecretName⟩ = _ at stored
  rw [stored]
  exact .pure rfl

/-- Changing a password to itself takes two logins and replaces the pods of the port manager. -/
theorem succeeds_rotatePassword_again (h : Unmoved target.namespaceName again w v)
    (known : (w.api url).users.get? user.email = some user.password.decode)
    (stored : w.cluster.object? (credentialsAddress target.namespaceName) =
      some ((credentialsOf target user).ownedBy target.owner))
    (there : (w.cluster.object? ⟨.deployment, target.namespaceName, PortManager.name⟩).isSome) :
    (rotatePassword target url user).Succeeds (fun session v' =>
      Unmoved target.namespaceName (again ++ [target.namespaceName ++ "/" ++ PortManager.name]) w v' ∧
        Holds url session v') v := by
  unfold rotatePassword
  refine (repeats_storedPassword stored).andThen h ?_
  rintro _ rfl v₁ h₁
  have rotated : (Bootstrap.rotatePassword url user.email user.password.decode
      user.password.decode).Succeeds
        (fun session v' => Unmoved target.namespaceName again w v' ∧ Holds url session v') v₁ := by
    refine (succeeds_logIn h₁ known).bind fun first v₂ ⟨h₂, _⟩ => ?_
    have unchanged : Bootstrap.changePassword url first user.password.decode user.password.decode =
        pure () := by simp [Bootstrap.changePassword]
    rw [unchanged]
    exact succeeds_logIn h₂ known
  refine rotated.bind fun session v₂ ⟨h₂, held⟩ => ?_
  have credentials : Repeats target.namespaceName w (fun r => r.existed = true)
      (target.syncObject (credentialsOf target user)) := by
    refine .sync (not_leafAddress_of_name ?_) ⟨none, ?_⟩
    · exact show PortManager.credentialsSecretName ∉ Router.leafSecretNames by decide
    · rw [Object.keepingStatus_none]
      exact stored
  have ending : (target.syncObject (credentialsOf target user) >>= fun _ => do
      if (← Attempt.get ⟨.deployment, target.namespaceName, PortManager.name⟩).isSome then
        Attempt.restart target.namespaceName PortManager.name
      return session).Succeeds (fun session' v' => session' = session ∧ Unmoved target.namespaceName
        (again ++ [target.namespaceName ++ "/" ++ PortManager.name]) w v') v₂ := by
    refine credentials.andThen h₂ fun _ _ v₃ h₃ => ?_
    refine Repeats.get.andThen h₃ fun found seen v₄ h₄ => ?_
    rw [if_pos (seen.2 there)]
    exact (succeeds_restart h₄ there).bind fun _ v₅ h₅ => .pure ⟨session, rfl, rfl, h₅⟩
  refine ending.lasts.mono ?_
  rintro _ v' ⟨⟨rfl, h'⟩, lasts⟩
  exact ⟨h', held.lasts lasts⟩

/-- The restarts of another pass: none, unless the error of a broken registration is taken for a wrong
password. -/
def restartsAgain (w : World) (ns : String) : List String :=
  if misreads (w.api (internalUrl ns)) (internalUrl ns) then [ns ++ "/" ++ PortManager.name] else []

variable {settings : Setup} {cp : ControlPlane} {host : String} {alternative : AlternativeName}
  {ca : KeyedCertificate} (done : Accomplished settings cp target host alternative ca w)
include done

theorem portManager_stands :
    (w.cluster.object? ⟨.deployment, target.namespaceName, PortManager.name⟩).isSome := by
  obtain ⟨old, stood⟩ := done.declared (.deployment ((portManagerOf settings cp
    target.namespaceName).deployment target.namespaceName)) (by simp [declaredObjects, Component.objects])
  rw [show w.cluster.object? ⟨.deployment, target.namespaceName, PortManager.name⟩ = _ from stood]
  rfl

/-- Where the answer to the registration is understood, the user is logged in. -/
theorem succeeds_ensureUser_again (h : Unmoved target.namespaceName again w v)
    (understood : misreads (w.api (internalUrl target.namespaceName))
      (internalUrl target.namespaceName) = false) :
    (Bootstrap.ensureUser (internalUrl target.namespaceName) cp.spec.user).Succeeds
      (fun session v' => Unmoved target.namespaceName again w v' ∧
        Holds (internalUrl target.namespaceName) session v') v := by
  refine (repeats_signUp (Bootstrap.signUpOf cp.spec.user) done.user).andThen h ?_
  rintro _ rfl v' h'
  dsimp only
  rw [if_pos]
  · exact succeeds_logIn h' done.user
  · cases broken : (w.api (internalUrl target.namespaceName)).signUpBroken with
    | false => exact ApiServer.isAccountExists_accountExists
    | true =>
      have wayOn := done.registers broken
      simp only [misreads, broken, Bool.true_and] at understood
      grind

/-- Otherwise it reads as a wrong password. -/
theorem finishes_ensureUser_again (h : Unmoved target.namespaceName again w v)
    (misread : misreads (w.api (internalUrl target.namespaceName))
      (internalUrl target.namespaceName) = true) :
    (Bootstrap.ensureUser (internalUrl target.namespaceName) cp.spec.user).Finishes (fun r v' =>
      (∃ e, r = .error e ∧ e.isInvalidCredentials) ∧ Unmoved target.namespaceName again w v') v := by
  refine (repeats_signUp (Bootstrap.signUpOf cp.spec.user) done.user).andThen h ?_
  rintro _ rfl v' h'
  simp only [misreads, Bool.and_eq_true, Bool.not_eq_true'] at misread
  obtain ⟨broken, unknown, invalid⟩ := misread
  dsimp only
  rw [broken, if_pos rfl, if_neg (by simp [unknown])]
  exact .throw ⟨⟨_, rfl, invalid⟩, h'⟩

theorem succeeds_openSession_again (h : Unmoved target.namespaceName [] w v) :
    (openSession target (internalUrl target.namespaceName) cp.spec.user).Succeeds (fun session v' =>
      Unmoved target.namespaceName (restartsAgain w target.namespaceName) w v' ∧
        Holds (internalUrl target.namespaceName) session v') v := by
  cases misread : misreads (w.api (internalUrl target.namespaceName))
      (internalUrl target.namespaceName) with
  | false =>
    rw [restartsAgain, misread, if_neg (by simp)]
    refine Attempt.Finishes.tryCatch (succeeds_ensureUser_again done h misread) ?_ ?_
    · exact fun session v' opened => opened
    · rintro e v' ⟨_, ⟨⟩, -⟩
  | true =>
    rw [restartsAgain, misread, if_pos rfl]
    refine Attempt.Finishes.tryCatch (finishes_ensureUser_again done h misread) ?_ ?_
    · rintro session v' ⟨⟨e, ⟨⟩, -⟩, -⟩
    · rintro e v' ⟨⟨_, same, invalid⟩, h'⟩
      obtain rfl := Except.error.inj same
      rw [if_pos invalid]
      have stored : w.cluster.object? (credentialsAddress target.namespaceName) =
          some ((credentialsOf target cp.spec.user).ownedBy target.owner) := by
        simp only [misreads, Bool.and_eq_true, Bool.not_eq_true'] at misread
        have wayOn := done.registers misread.1
        grind
      exact succeeds_rotatePassword_again h' done.user stored (portManager_stands done)

/-- The controller still serves outside. -/
theorem repeats_checkOutside :
    Repeats target.namespaceName w (· = .proceed) (checkOutside settings cp target.namespaceName) := by
  unfold checkOutside
  split
  · exact .pure rfl
  · rename_i balanced
    obtain ⟨address, known, accepts⟩ := done.acceptsOutside (by simpa using balanced)
    refine Repeats.discoverAddress.bind ?_
    rintro _ rfl
    rw [known]
    have probed : Repeats target.namespaceName w (· = Outcome.proceed)
        (do probeExternal address; return .proceed) := by
      refine Repeats.bind (Q := fun _ => True) ?_ fun _ _ => .pure rfl
      exact (Repeats.connect _).bind fun _ _ => repeats_waitUntilAvailable accepts Nat.one_ne_zero
    intro again v h
    refine Attempt.Finishes.tryCatch (probed again v h) (fun _ _ h' => h') ?_
    rintro e v' ⟨_, ⟨⟩, -⟩

theorem succeeds_bootstrapController_again (h : Unmoved target.namespaceName [] w v) :
    (bootstrapController settings target cp).Succeeds (fun o v' => o = .proceed ∧
      Unmoved target.namespaceName (restartsAgain w target.namespaceName) w v') v := by
  unfold bootstrapController
  refine (Repeats.connect _).andThen h fun _ _ v₁ h₁ => ?_
  refine (repeats_waitUntilAvailable done.accepts done.tries).andThen h₁ fun _ _ v₂ h₂ => ?_
  refine (succeeds_openSession_again done h₂).bind fun session v₃ ⟨h₃, held⟩ => ?_
  refine (repeats_routerAddress done _ v₃ h₃).lasts.bind ?_
  rintro _ v₄ ⟨⟨rfl, h₄⟩, lasts⟩
  refine (succeeds_registerRouter h₄ (held.lasts lasts) done.router).bind fun _ v₅ h₅ => ?_
  exact repeats_checkOutside done _ v₅ h₅

theorem succeeds_attemptController_again (htarget : Target.of cp = .ok target)
    (pull : cp.spec.images.pullSecret = "" ∨ cp.spec.images.pullSecret ∉ operatorSecrets)
    (h : Unmoved target.namespaceName [] w v) :
    (attemptController settings cp).Succeeds (fun o v' => o = .proceed ∧
      Unmoved target.namespaceName (restartsAgain w target.namespaceName) w v') v := by
  have driven (v : World) (h : Unmoved target.namespaceName [] w v) :
      (driveController settings target cp).Succeeds (fun o v' => o = .proceed ∧
        Unmoved target.namespaceName (restartsAgain w target.namespaceName) w v') v := by
    refine (repeats_syncController done).andThen h ?_
    rintro _ rfl v' h'
    exact succeeds_bootstrapController_again done h'
  unfold attemptController
  rw [htarget, Attempt.ofExcept_ok_bind]
  dsimp only
  split
  · rename_i given
    have given : cp.spec.images.pullSecret ≠ "" := by simpa using given
    exact (repeats_verifyPullSecret done (pull.resolve_left given) given).andThen h
      fun _ _ v' h' => driven v' h'
  · exact driven v h

/-- Another pass comes out clean, and has moved nothing. -/
theorem finishes_converge_again (htarget : Target.of cp = .ok target)
    (pull : cp.spec.images.pullSecret = "" ∨ cp.spec.images.pullSecret ∉ operatorSecrets) :
    (converge settings cp).Finishes (fun o v => o.isClean ∧
      Unmoved target.namespaceName (restartsAgain w target.namespaceName) w v) w := by
  have joined : (Program.joinAll
      [router settings cp, controller settings cp, portManager settings cp]).Finishes (fun outcomes v =>
        (∀ o ∈ outcomes, o = .proceed) ∧
          Unmoved target.namespaceName (restartsAgain w target.namespaceName) w v) w := by
    refine (finishes_settle (repeats_attemptRouter done htarget _ w (unmoved_self done))).joinAll ?_
    rintro _ v₁ ⟨rfl, h₁⟩
    refine (finishes_settle (succeeds_attemptController_again done htarget pull h₁)).joinAll ?_
    rintro _ v₂ ⟨rfl, h₂⟩
    refine (finishes_settle (repeats_attemptPortManager done htarget _ v₂ h₂)).joinAll ?_
    rintro _ v₃ ⟨rfl, h₃⟩
    exact ⟨by simp, h₃⟩
  refine joined.bind fun outcomes v ⟨proceed, h⟩ => ⟨?_, h⟩
  rw [Outcome.isClean_mergeAll, List.all_eq_true]
  intro o ho
  rw [proceed o ho]
  rfl

end Session

variable {settings : Setup} {cp : ControlPlane}

/-- Nothing is restarted again exactly if no error of a broken registration is taken for a wrong password. -/
theorem restartsAgain_eq_nil_iff (w : World) (ns : String) :
    restartsAgain w ns = [] ↔ misreads (w.api (internalUrl ns)) (internalUrl ns) = false := by
  unfold restartsAgain
  split <;> simp [*]

/-- Converging twice is converging once. After a clean pass another one is clean, creates nothing, and leaves
all objects as they are, but for fresh keys in the certificates of the router. It leaves the users and the
router of every interface as they are. It replaces no pods exactly if no error of a broken registration is
taken for a wrong password, so it replaces none in any namespace whose name has no blank. -/
theorem unmoved_of_clean {w : World} (reliable : w.faults = []) (filed : w.cluster.IsFiled)
    (pull : cp.spec.images.pullSecret = "" ∨ cp.spec.images.pullSecret ∉ operatorSecrets)
    (clean : (w.run (converge settings cp)).1.isClean) :
    ∃ ns, cp.metadata.namespaceName = some ns ∧
      let first := (w.run (converge settings cp)).2
      let second := (first.run (converge settings cp)).2
      (first.run (converge settings cp)).1.isClean ∧
        Unmoved ns (restartsAgain first ns) first second ∧
        (second.cluster.restarts = first.cluster.restarts ↔
          misreads (first.api (internalUrl ns)) (internalUrl ns) = false) ∧
        (' ' ∉ ns.toList → restartsAgain first ns = []) := by
  obtain ⟨target, host, alternative, ca, htarget, done⟩ := accomplished_of_clean reliable filed pull clean
  obtain ⟨again, unmoved⟩ := World.run_of_finishes_here (finishes_converge_again done htarget pull)
  refine ⟨target.namespaceName, (Target.namespaceName_of htarget).1, again, unmoved, ?_, fun plain => ?_⟩
  · rw [unmoved.cluster.restarts, List.append_right_eq_self, restartsAgain_eq_nil_iff]
  · exact (restartsAgain_eq_nil_iff ..).2 (misreads_of_no_blank plain _)

theorem isFiled_outdatedWorld : outdatedWorld.cluster.IsFiled := .insert (.insert Cluster.isFiled_empty _) _

/-- A pass that changes the password is not repeated by the next one. -/
theorem unmoved_of_outdatedWorld :
    let cp := plainControlPlane "a@b.c" (.ofPlain "two") {}
    let first := (outdatedWorld.run (converge .standard cp)).2
    outdatedWorld.cluster.IsFiled ∧ (outdatedWorld.run (converge .standard cp)).1.isClean ∧
      (first.api (internalUrl "ns")).users.get? "a@b.c" = some "two" ∧
      (first.run (converge .standard cp)).1.isClean ∧
      Unmoved "ns" [] first (first.run (converge .standard cp)).2 := by
  intro cp first
  have clean : (outdatedWorld.run (converge .standard cp)).1.isClean := by decide +kernel
  obtain ⟨ns, home, again, unmoved, -, plain⟩ :=
    unmoved_of_clean rfl isFiled_outdatedWorld (.inl (by rfl)) clean
  obtain rfl := Option.some.inj home
  exact ⟨isFiled_outdatedWorld, clean, by decide +kernel, again, plain (by decide) ▸ unmoved⟩

/-- A control plane in a namespace whose name holds the words for a wrong password. A cluster admits no such
name, but a store in memory does. -/
def misreadControlPlane : ControlPlane :=
  let plain := plainControlPlane "a@b.c" (.ofPlain "one") {}
  { plain with metadata := { plain.metadata with namespaceName := some "invalid credentials" } }

/-- A world whose controller knows the user, but cannot register anyone. -/
def misreadWorld : World where
  cluster := (({} : Cluster).insert
      (.secret (PortManager.credentialsSecret "invalid credentials" "a@b.c" (.ofPlain "one")))).insert
    (.deployment { metadata := .named "invalid credentials" Controller.name })
  apis := Dict.insert {} (internalUrl "invalid credentials")
    { ApiServer.addUser {} "a@b.c" "one" with signUpBroken := true }

/-- A broken registration ought to end the pass. In such a namespace its error is taken for a refused login
instead, so every pass comes out clean and replaces the pods of the port manager. -/
theorem restarted_by_misreading : ¬ ∀ (settings : Setup) (cp : ControlPlane) (w : World),
    w.faults = [] → w.cluster.IsFiled → cp.spec.images.pullSecret = "" →
    (w.run (converge settings cp)).1.isClean →
      let first := (w.run (converge settings cp)).2
      (first.run (converge settings cp)).2.cluster.restarts = first.cluster.restarts := by
  intro same
  have kept := same .standard misreadControlPlane misreadWorld rfl
    (.insert (.insert Cluster.isFiled_empty _) _) rfl (by decide +kernel)
  exact absurd kept (by decide +kernel)

end Reconcile

end EdgePlane
