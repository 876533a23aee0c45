import EdgePlane.Proofs.Convergence
import EdgePlane.Proofs.Steady

/-!
# The order of the parts does not matter

The parts of the router, the controller and the port manager share a cluster. The router and the port
manager write objects that the controller looks up: the service of the router, of which the controller
takes only the address of the load balancer, and the credentials and the deployment of the port manager,
which the controller looks up and replaces only when it changes a password.

So from the standpoint of each part nothing happens but what it does itself, as long as no password is
changed, or the credentials and the deployment of the port manager are there beforehand. Then the parts
do together what they do one after another.
-/

namespace EdgePlane.Reconcile

open Kubernetes Simulation Standpoint

/-- Whether an address is one of some places in a namespace. -/
def IsAmong (ns : String) (places : List (Kind × String)) (a : Address) : Prop :=
  a.namespaceName = ns ∧ (a.kind, a.name) ∈ places

instance (ns : String) (places : List (Kind × String)) (a : Address) :
    Decidable (IsAmong ns places a) := inferInstanceAs (Decidable (_ ∧ _))

/-- The places of a component's account, role and binding. -/
def identityPlaces (name : String) : List (Kind × String) :=
  [(.serviceAccount, name), (.role, name), (.roleBinding, name)]

/-- The places that the router's part writes. -/
def routerPlaces : List (Kind × String) :=
  identityPlaces Router.name ++ [(.service, Router.name), (.deployment, Router.name),
    (.secret, Router.authoritySecretName), (.secret, Router.amqpsSecretName),
    (.secret, Router.internalSecretName)]

/-- The places that the controller's part writes, but for the port manager's credentials. -/
def controllerPlaces : List (Kind × String) :=
  identityPlaces Controller.name ++ [(.service, Controller.name), (.deployment, Controller.name),
    (.secret, Controller.databaseSecretName), (.volumeClaim, Controller.claimName)]

/-- The places that the port manager's part writes, but for its credentials. -/
def portManagerPlaces : List (Kind × String) :=
  identityPlaces PortManager.name ++ [(.deployment, PortManager.name)]

/-- The place of the port manager's credentials. -/
def credentialsPlace : Kind × String := (.secret, PortManager.credentialsSecretName)

/-- Whether an object is no service with a reported status. -/
def ReportsNothing (o : Object) : Prop := o.service?.bind (·.status) = none

/-- The standpoint of a part that regards the places that it writes, and others in part. -/
def standpoint (ns : String) (places : List (Kind × String)) (others : Address → Regard)
    (stands : Address → Prop) (draws talks copes : Bool) : Standpoint where
  regard a := if IsAmong ns places a then .whole else others a
  Stands := stands
  Writes o := IsAmong ns places o.address ∧ ReportsNothing o
  draws
  talks
  copes
  whole_of_writes _ writes := if_pos writes.1

def routerView (ns : String) : Standpoint :=
  standpoint ns routerPlaces (fun _ => .unseen) (fun _ => False) true false true

/-- The controller's standpoint. If `shared` then the credentials and the deployment of the port manager
stand, so the password may be changed. -/
def controllerView (ns pullSecret : String) (shared : Bool) : Standpoint :=
  standpoint ns (if shared then credentialsPlace :: controllerPlaces else controllerPlaces)
    (fun a =>
      if a = ⟨.secret, ns, pullSecret⟩ then .whole
      else if a = ⟨.service, ns, Router.name⟩ then .exposure else .unseen)
    (fun a => shared ∧ (a = credentialsAddress ns ∨ a = ⟨.deployment, ns, PortManager.name⟩))
    false true shared

/-- The port manager's standpoint. The credentials are left to the controller if they stand. -/
def portManagerView (ns : String) (shared : Bool) : Standpoint :=
  standpoint ns (if shared then portManagerPlaces else credentialsPlace :: portManagerPlaces)
    (fun _ => .unseen) (fun a => shared ∧ a = credentialsAddress ns) false false true

section Views

variable {ns : String} {places : List (Kind × String)} {others : Address → Regard}
  {stands : Address → Prop} {draws talks copes : Bool}

theorem regard_of_isAmong {a : Address} (h : IsAmong ns places a) :
    (standpoint ns places others stands draws talks copes).regard a = .whole := if_pos h

theorem regard_of_elsewhere {a : Address} (h : ¬IsAmong ns places a) :
    (standpoint ns places others stands draws talks copes).regard a = others a := if_neg h

theorem regarded_of_others {a : Address} (h : others a ≠ .unseen) :
    (standpoint ns places others stands draws talks copes).regard a ≠ .unseen := by
  by_cases among : IsAmong ns places a
  · rw [regard_of_isAmong among]
    decide
  · rwa [regard_of_elsewhere among]

/-- An object in one of the places may be written. -/
theorem writes_ownedBy {o : Object} (owner : OwnerReference) (h : IsAmong ns places o.address)
    (fresh : ReportsNothing o) :
    (standpoint ns places others stands draws talks copes).Writes (o.ownedBy owner) := by
  refine ⟨(Object.address_ownedBy owner o).symm ▸ h, ?_⟩
  cases o <;> first | rfl | exact fresh

end Views

theorem steady_settle {S : Standpoint} {x : Attempt Outcome} (h : x.KeepsTo S) :
    S.Steady (fun _ => True) (settle x) :=
  Standpoint.Steady.bind h fun r _ => match r with
    | .ok _ => trivial
    | .error _ => trivial

section Parts

variable {target : Target} {S : Standpoint} {places : List (Kind × String)}
  (writes : ∀ o : Object, IsAmong target.namespaceName places o.address →
    ReportsNothing o → S.Writes (o.ownedBy target.owner))
include writes

theorem syncIdentity_keepsTo {component : Component}
    (sub : ∀ place ∈ identityPlaces component.name, place ∈ places) :
    (target.syncIdentity component).KeepsTo S := by
  have synced (o : Object) (here : o.namespaceName = target.namespaceName)
      (place : (o.kind, o.name) ∈ identityPlaces component.name) (fresh : ReportsNothing o) :
      (target.syncObject o).KeepsTo S := .sync (writes o ⟨here, sub _ place⟩ fresh)
  refine .bind (synced _ rfl (.head _) rfl) fun _ => ?_
  split
  · exact .bind (synced _ rfl (.tail _ (.head _)) rfl) fun _ =>
      .bind (synced _ rfl (.tail _ (.tail _ (.head _))) rfl) fun _ => .pure _
  · exact .pure _

theorem syncService_keepsTo {component : Component}
    (sub : ∀ d, component.service = some d → (.service, d.name) ∈ places) :
    (target.syncService component).KeepsTo S := by
  unfold Target.syncService
  split
  · rename_i service found
    obtain ⟨d, hd, rfl⟩ := Option.map_eq_some_iff.1 found
    exact .bind (.sync (writes _ ⟨rfl, sub d hd⟩ rfl)) fun _ => .pure _
  · exact .pure _

theorem syncSecret_keepsTo {secret : Secret} {mode : SyncMode}
    (among : IsAmong target.namespaceName places (Object.secret secret).address) :
    (sync target.owner mode (.secret secret)).KeepsTo S := .sync (writes _ among rfl)

theorem syncDeployment_keepsTo {component : Component} (place : (.deployment, component.name) ∈ places) :
    (target.syncObject (.deployment (component.deployment target.namespaceName))).KeepsTo S :=
  .sync (writes _ ⟨rfl, place⟩ rfl)

end Parts

theorem routerAddress_keepsTo {S : Standpoint} {ns : String} (cp : ControlPlane)
    (regarded : S.regard ⟨.service, ns, Router.name⟩ ≠ .unseen) : (routerAddress cp ns).KeepsTo S := by
  unfold routerAddress
  dsimp only
  split
  · exact .discoverAddress regarded
  · split
    · exact .throw _
    · exact .pure _

theorem router_steady (settings : Setup) {cp : ControlPlane} {ns : String}
    (home : ∀ target, Target.of cp = .ok target → target.namespaceName = ns) :
    (routerView ns).Steady (fun _ => True) (router settings cp) := by
  refine steady_settle (.ofExcept_bind fun target found => ?_)
  obtain rfl := home target found
  have writes (o : Object) (among : IsAmong target.namespaceName routerPlaces o.address)
      (fresh : ReportsNothing o) : (routerView target.namespaceName).Writes (o.ownedBy target.owner) :=
    writes_ownedBy target.owner among fresh
  have whole {kind : Kind} {name : String} (place : (kind, name) ∈ routerPlaces) :
      (routerView target.namespaceName).regard ⟨kind, target.namespaceName, name⟩ = .whole :=
    regard_of_isAmong ⟨rfl, place⟩
  have leaf (ca : KeyedCertificate) (address : String) {name : String}
      (place : (.secret, name) ∈ routerPlaces) :
      (syncLeaf target ca address name).KeepsTo (routerView target.namespaceName) :=
    .ofExcept_bind fun _ _ => .bind (.drawKey rfl) fun _ =>
      .bind (syncSecret_keepsTo writes ⟨rfl, place⟩) fun _ => .pure _
  have authority : (Kind.secret, Router.authoritySecretName) ∈ routerPlaces := by decide
  refine .bind (syncIdentity_keepsTo writes ?_) fun _ => .bind (syncService_keepsTo writes ?_) fun _ =>
    .bind (routerAddress_keepsTo cp ?_) fun address => ?_
  · exact show ∀ place ∈ identityPlaces Router.name, place ∈ routerPlaces by decide
  · rintro d ⟨⟩
    exact show (Kind.service, Router.name) ∈ routerPlaces by decide
  · rw [whole (by decide)]
    decide
  · cases address with
    | none => exact .pure _
    | some address =>
      refine .bind (.bind (.getSecret (whole authority)) fun found => ?_) fun ca =>
        .bind (.bind (leaf ca address (by decide)) fun _ =>
          .bind (leaf ca address (by decide)) fun _ => .pure _) fun _ =>
            .bind (syncDeployment_keepsTo writes ?_) fun _ => .pure _
      rotate_right
      · exact show (Kind.deployment, Router.name) ∈ routerPlaces by decide
      cases found with
      | some secret => exact .ofExcept _
      | none =>
        exact .bind (.drawKey rfl) fun fresh =>
          .bind (syncSecret_keepsTo writes ⟨rfl, authority⟩) fun _ => .pure _

theorem portManager_steady (settings : Setup) {cp : ControlPlane} {ns : String} (shared : Bool)
    (home : ∀ target, Target.of cp = .ok target → target.namespaceName = ns) :
    (portManagerView ns shared).Steady (fun _ => True) (portManager settings cp) := by
  refine steady_settle (.ofExcept_bind fun target found => ?_)
  obtain rfl := home target found
  have writes (o : Object) (among : IsAmong target.namespaceName portManagerPlaces o.address)
      (fresh : ReportsNothing o) :
      (portManagerView target.namespaceName shared).Writes (o.ownedBy target.owner) := by
    refine writes_ownedBy target.owner ⟨among.1, ?_⟩ fresh
    cases shared
    · exact .tail _ among.2
    · exact among.2
  have credentials : (target.syncOnce (credentialsOf target cp.spec.user)).KeepsTo
      (portManagerView target.namespaceName shared) := by
    cases shared with
    | false => exact .sync (writes_ownedBy target.owner ⟨rfl, .head _⟩ rfl)
    | true => exact .syncOnce_of_stands ⟨rfl, rfl⟩
  exact .bind (syncIdentity_keepsTo writes
      (show ∀ place ∈ identityPlaces PortManager.name, place ∈ portManagerPlaces by decide)) fun _ =>
    .bind credentials fun _ => .bind (syncDeployment_keepsTo writes
      (show (Kind.deployment, PortManager.name) ∈ portManagerPlaces by decide)) fun _ => .pure _

theorem verifyPullSecret_keepsTo {S : Standpoint} {ns name : String}
    (whole : S.regard ⟨.secret, ns, name⟩ = .whole) : (verifyPullSecret ns name).KeepsTo S := by
  refine .bind (.getSecret whole) fun found => ?_
  cases found with
  | none => exact .throw _
  | some secret =>
    dsimp only
    split
    · exact .pure _
    · exact .throw _

theorem storedPassword_keepsTo {S : Standpoint} {ns : String} (email : String)
    (whole : S.regard (credentialsAddress ns) = .whole) : (storedPassword ns email).KeepsTo S := by
  refine .bind (.getSecret whole) fun found => ?_
  cases found with
  | none => exact .throw _
  | some secret =>
    dsimp only
    split
    · exact .throw _
    · exact .pure _

/-- A session may be opened where a password cannot be changed, or where the credentials may be written
and the deployment of the port manager is known to stand. -/
theorem openSession_keepsTo {S : Standpoint} {target : Target} (url : String) (user : ControlPlane.User)
    (talks : S.talks)
    (copes : S.copes → S.Writes ((credentialsOf target user).ownedBy target.owner) ∧
      S.Stands ⟨.deployment, target.namespaceName, PortManager.name⟩) :
    (openSession target url user).KeepsTo S := by
  refine (Bootstrap.ensureUser_admitted url user talks).tryCatch fun e known => ?_
  split
  · rename_i invalid
    obtain ⟨writes, stands⟩ := copes (known.resolve_right (by simp [invalid]))
    have whole : S.regard (credentialsAddress target.namespaceName) = .whole :=
      S.whole_of_writes _ writes
    refine .bind (storedPassword_keepsTo user.email whole) fun previous =>
      .bind (Bootstrap.rotatePassword_keepsTo url user.email _ _ talks) fun session =>
        .bind (.sync writes) fun _ => .get_bind (.inr stands) fun o o' finds => ?_
    obtain ⟨found, found'⟩ := finds.2 stands
    rw [found, found']
    exact ⟨rfl, .bind (.restart talks (.inr stands)) fun _ => .pure _⟩
  · exact .throw _

section Controller

variable (settings : Setup) (cp : ControlPlane) (target : Target) (shared : Bool)

/-- The controller's standpoint for the declared pull secret. -/
abbrev viewOf : Standpoint :=
  controllerView target.namespaceName cp.spec.images.pullSecret shared

theorem controller_writes {o : Object} (among : IsAmong target.namespaceName controllerPlaces o.address)
    (fresh : ReportsNothing o) : (viewOf cp target shared).Writes (o.ownedBy target.owner) := by
  refine writes_ownedBy target.owner ⟨among.1, ?_⟩ fresh
  cases shared
  · exact among.2
  · exact .tail _ among.2

theorem controller_regards {kind : Kind} {name : String} (place : (kind, name) ∈ controllerPlaces) :
    (viewOf cp target shared).regard ⟨kind, target.namespaceName, name⟩ = .whole := by
  refine regard_of_isAmong ⟨rfl, ?_⟩
  cases shared
  · exact place
  · exact .tail _ place

theorem pullSecret_regarded :
    (viewOf cp target shared).regard ⟨.secret, target.namespaceName, cp.spec.images.pullSecret⟩ =
      .whole := by
  simp [viewOf, controllerView, standpoint]

theorem routerService_regarded :
    (viewOf cp target shared).regard ⟨.service, target.namespaceName, Router.name⟩ ≠ .unseen := by
  refine regarded_of_others ?_
  rw [if_neg (by simp), if_pos rfl]
  decide

theorem syncController_keepsTo : (syncController settings target cp).KeepsTo (viewOf cp target shared) := by
  have writes (o : Object) := controller_writes cp target shared (o := o)
  have database : (Kind.secret, Controller.databaseSecretName) ∈ controllerPlaces := by decide
  have deployed : (target.syncObject (.deployment ((controllerOf settings cp).deployment
      target.namespaceName))).KeepsTo (viewOf cp target shared) :=
    syncDeployment_keepsTo writes (show (Kind.deployment, Controller.name) ∈ controllerPlaces by decide)
  refine .bind (syncIdentity_keepsTo writes
      (show ∀ place ∈ identityPlaces Controller.name, place ∈ controllerPlaces by decide)) fun _ =>
    .bind (.getSecret (controller_regards cp target shared database)) fun found =>
      .bind (syncSecret_keepsTo writes ⟨rfl, database⟩) fun _ =>
        .bind (syncService_keepsTo writes ?_) fun _ => ?_
  · rintro d ⟨⟩
    exact show (Kind.service, Controller.name) ∈ controllerPlaces by decide
  · split
    · exact .bind (.sync (writes _ ⟨rfl, show (Kind.volumeClaim, Controller.claimName) ∈ controllerPlaces
        by decide⟩ rfl)) fun _ => .bind deployed fun _ => .pure _
    · exact .bind deployed fun _ => .pure _

theorem bootstrapController_keepsTo :
    (bootstrapController settings target cp).KeepsTo (viewOf cp target shared) := by
  have copes (h : (viewOf cp target shared).copes) :
      (viewOf cp target shared).Writes ((credentialsOf target cp.spec.user).ownedBy target.owner) ∧
        (viewOf cp target shared).Stands ⟨.deployment, target.namespaceName, PortManager.name⟩ := by
    obtain rfl : shared = true := h
    exact ⟨writes_ownedBy target.owner ⟨rfl, .head _⟩ rfl, rfl, .inr rfl⟩
  refine .bind (.connect _) fun _ =>
    .bind (Bootstrap.waitUntilAvailable_keepsTo _ _ rfl) fun _ =>
      .bind (openSession_keepsTo _ cp.spec.user rfl copes) fun session =>
        .bind (routerAddress_keepsTo cp (routerService_regarded cp target shared)) fun address => ?_
  cases address with
  | none => exact .pure _
  | some host =>
    refine .bind (Bootstrap.registerRouter_keepsTo _ _ _ rfl) fun _ => ?_
    split
    · exact .pure _
    · refine .bind (.discoverAddress ?_) fun address => ?_
      · rw [controller_regards cp target shared (by decide)]
        decide
      · cases address with
        | none => exact .pure _
        | some address =>
          refine .tryCatch (.bind ?_ fun _ => .pure _) fun _ => .pure _
          exact .bind (.connect _) fun _ => Bootstrap.waitUntilAvailable_keepsTo _ _ rfl

theorem driveController_keepsTo : (driveController settings target cp).KeepsTo (viewOf cp target shared) := by
  refine .bind (syncController_keepsTo settings cp target shared) fun result => ?_
  dsimp only
  split
  · exact .pure _
  · split
    · exact .bind (.restart rfl (.inl (controller_regards cp target shared (by decide)))) fun _ =>
        bootstrapController_keepsTo settings cp target shared
    · exact bootstrapController_keepsTo settings cp target shared

end Controller

theorem controller_steady (settings : Setup) {cp : ControlPlane} {ns : String} (shared : Bool)
    (home : ∀ target, Target.of cp = .ok target → target.namespaceName = ns) :
    (controllerView ns cp.spec.images.pullSecret shared).Steady (fun _ => True)
      (controller settings cp) := by
  refine steady_settle (.ofExcept_bind fun target found => ?_)
  obtain rfl := home target found
  have drive := driveController_keepsTo settings cp target shared
  dsimp only
  split
  · exact .bind (verifyPullSecret_keepsTo (pullSecret_regarded cp target shared)) fun _ => drive
  · exact drive

section Apartness

variable {ns pullSecret : String} {shared : Bool}

/-- What is written at other places goes unnoticed, if it does at those that are regarded in part. -/
theorem ignores_of_distinct {places places' : List (Kind × String)} {others others' : Address → Regard}
    {stands stands' : Address → Prop} {draws draws' talks talks' copes copes' : Bool}
    (distinct : ∀ place ∈ places', place ∉ places)
    (overlooked : ∀ o : Object, IsAmong ns places' o.address → ReportsNothing o →
      (others o.address).Overlooks o)
    (draw : draws' → draws = false) (talk : talks' → talks = false) :
    (standpoint ns places others stands draws talks copes).Ignores
      (standpoint ns places' others' stands' draws' talks' copes') where
  writes o written := by
    have elsewhere : ¬IsAmong ns places o.address := fun here => distinct _ written.1.2 here.2
    rw [regard_of_elsewhere elsewhere]
    exact overlooked o written.1 written.2
  draws := draw
  talks := talk

/-- The controller's standpoint takes no notice of what is neither the pull secret nor reports a status. -/
theorem controller_overlooks {places : List (Kind × String)} (distinct : (.secret, pullSecret) ∉ places)
    (o : Object) (among : IsAmong ns places o.address) (fresh : ReportsNothing o) :
    (if o.address = ⟨.secret, ns, pullSecret⟩ then Regard.whole
      else if o.address = ⟨.service, ns, Router.name⟩ then .exposure else .unseen).Overlooks o := by
  split
  · rename_i here
    rw [here] at among
    exact absurd among.2 distinct
  · split
    · rename_i here
      cases o with
      | service s => exact ⟨s, rfl, fresh⟩
      | _ => exact absurd (congrArg Address.kind here) (by simp [Object.address, Object.kind])
    · trivial

theorem router_apart_controller (free : pullSecret ∉ secretNames) :
    (routerView ns).Apart (controllerView ns pullSecret shared) := by
  have distinct : (Kind.secret, pullSecret) ∉ routerPlaces := by
    simp_all [routerPlaces, identityPlaces, secretNames]
  refine ⟨ignores_of_distinct ?_ (fun _ _ _ => trivial) (by decide) (by decide),
    ignores_of_distinct ?_ (controller_overlooks distinct) (by decide) (by decide)⟩
  · cases shared <;> decide
  · cases shared <;> decide

theorem router_apart_portManager : (routerView ns).Apart (portManagerView ns shared) := by
  refine ⟨ignores_of_distinct ?_ (fun _ _ _ => trivial) (by decide) (by decide),
    ignores_of_distinct ?_ (fun _ _ _ => trivial) (by decide) (by decide)⟩
  · cases shared <;> decide
  · cases shared <;> decide

theorem controller_apart_portManager (free : pullSecret ∉ secretNames) :
    (controllerView ns pullSecret shared).Apart (portManagerView ns shared) := by
  refine ⟨ignores_of_distinct ?_ (controller_overlooks ?_) (by decide) (by decide),
    ignores_of_distinct ?_ (fun _ _ _ => trivial) (by decide) (by decide)⟩
  · cases shared <;> decide
  · cases shared <;> simp_all [portManagerPlaces, identityPlaces, credentialsPlace, secretNames]
  · cases shared <;> decide

end Apartness

/-- Brings all components about one after another, and merges their outcomes. -/
def convergeInTurn (settings : Setup) (cp : ControlPlane) : Program Outcome := do
  let routerOutcome ← router settings cp
  let controllerOutcome ← controller settings cp
  let portManagerOutcome ← portManager settings cp
  return .mergeAll [routerOutcome, controllerOutcome, portManagerOutcome]

/-- Whether no login and no registration was refused for a wrong password, so that no change of the
password was called for. -/
def NoneRefused (t : List Event) : Prop := ∀ e ∈ t, e.isRefusal = false

/-- Whether the credentials and the deployment of the port manager are there. -/
structure HasPortManager (w : World) (ns : String) : Prop where
  credentials : (w.cluster.object? (credentialsAddress ns)).isSome
  deployment : (w.cluster.object? ⟨.deployment, ns, PortManager.name⟩).isSome

/-- Whether two worlds hold the same objects, the same interfaces with their users and routers, and the
same deployments were restarted. -/
structure EndsAlike (w v : World) : Prop where
  objects : ∀ a, w.cluster.object? a = v.cluster.object? a
  apis : ∀ url, w.api url = v.api url
  restarts : w.cluster.restarts = v.cluster.restarts

/-- However the parts take turns, they do what they do one after another, unless a password is changed
while the credentials or the deployment of the port manager are only being made. -/
theorem inTurn_of_parts {settings : Setup} {cp : ControlPlane} {w w' : World} {t : List Event}
    (p : Parts settings cp t) (follows : w.Follows t w') (reliable : w.faults = [])
    (free : cp.spec.images.pullSecret ∉ secretNames)
    (calm : NoneRefused t ∨ NoneRefused (w.trace (convergeInTurn settings cp)) ∨
      ∃ ns, cp.metadata.namespaceName = some ns ∧ HasPortManager w ns) :
    p.outcome = (w.run (convergeInTurn settings cp)).1 ∧
      EndsAlike w' (w.run (convergeInTurn settings cp)).2 := by
  generalize hns : cp.metadata.namespaceName.getD "" = ns
  have home (target : Target) (h : Target.of cp = .ok target) : target.namespaceName = ns := by
    rw [← hns, (Target.namespaceName_of h).1, Option.getD_some]
  obtain ⟨shared, stands, calm⟩ : ∃ shared, (shared = true → HasPortManager w ns) ∧
      (shared = true ∨ NoneRefused t ∨ NoneRefused (w.trace (convergeInTurn settings cp))) := by
    rcases calm with calm | calm | ⟨ns', here, stands⟩
    · exact ⟨false, by simp, .inr (.inl calm)⟩
    · exact ⟨false, by simp, .inr (.inr calm)⟩
    · rw [here, Option.getD_some] at hns
      exact ⟨true, fun _ => hns ▸ stands, .inl rfl⟩
  have same {S : Standpoint} (known : ∀ a, S.Stands a → (w.cluster.object? a).isSome) : S.Same w w :=
    .refl reliable known
  have expected : (∀ e ∈ p.controller,
        (controllerView ns cp.spec.images.pullSecret shared).Expects e) ∨
      ∀ e ∈ (w.run (router settings cp)).2.trace (controller settings cp),
        (controllerView ns cp.spec.images.pullSecret shared).Expects e := by
    rcases calm with copes | calm | calm
    · exact .inl fun _ _ => .inl copes
    · refine .inl fun e he => .inr (calm e ?_)
      exact p.apart.mem_iff.2 (.inr (p.othersApart.mem_iff.2 (.inl he)))
    · refine .inr fun e he => .inr (calm e ?_)
      simp only [convergeInTurn, World.trace_bind, List.mem_append]
      exact .inr (.inl he)
  obtain ⟨⟨first, second, third⟩, objects, others⟩ := Standpoint.confluent
    (router_steady settings home) (controller_steady settings shared home)
    (portManager_steady settings shared home) rfl rfl
    (router_apart_controller free) router_apart_portManager (controller_apart_portManager free)
    (same fun _ => False.elim)
    (same fun a known => by
      rcases known with ⟨copes, rfl | rfl⟩
      · exact (stands copes).credentials
      · exact (stands copes).deployment)
    (same fun a known => known.2 ▸ (stands known.1).credentials)
    p.apart p.othersApart follows p.playsRouter p.playsController p.playsPortManager expected
  rw [convergeInTurn, World.run_bind, World.run_bind, World.run_bind, first, second, third]
  exact ⟨rfl, objects, others.apis rfl, others.restarts rfl⟩

/-- A control plane whose password is to change. -/
def movingControlPlane : ControlPlane := plainControlPlane "a@b.c" (.ofPlain "two") {}

/-- A world in which all is deployed. The interface does not serve at first, so the controller's part
sleeps and the port manager's has its turn before the password is changed. -/
def movingWorld : World where
  cluster := ((({} : Cluster).insert
      (.secret (PortManager.credentialsSecret "ns" "a@b.c" (.ofPlain "one")))).insert
    (.deployment { metadata := .named "ns" PortManager.name })).insert
    (.deployment { metadata := .named "ns" Controller.name })
  apis := Dict.insert {} (internalUrl "ns")
    { ApiServer.addUser {} "a@b.c" "one" with refusals := some 1 }

theorem inTurn_of_movingWorld :
    movingWorld.faults = [] ∧ movingControlPlane.spec.images.pullSecret ∉ secretNames ∧
      movingControlPlane.metadata.namespaceName = some "ns" ∧ HasPortManager movingWorld "ns" ∧
      (movingWorld.run (converge .standard movingControlPlane)).2.cluster.restarts =
        ["ns/port-manager"] ∧
      (movingWorld.run (converge .standard movingControlPlane)).1 =
        (movingWorld.run (convergeInTurn .standard movingControlPlane)).1 ∧
      EndsAlike (movingWorld.run (converge .standard movingControlPlane)).2
        (movingWorld.run (convergeInTurn .standard movingControlPlane)).2 := by
  have free : movingControlPlane.spec.images.pullSecret ∉ secretNames := by decide
  have stands : HasPortManager movingWorld "ns" := ⟨by decide +kernel, by decide +kernel⟩
  obtain ⟨p, outcome⟩ := plays_converge
    (movingWorld.plays_trace (converge .standard movingControlPlane))
  obtain ⟨same, alike⟩ := inTurn_of_parts p (movingWorld.follows_trace _) rfl free
    (.inr (.inr ⟨"ns", rfl, stands⟩))
  exact ⟨rfl, free, rfl, stands, by decide +kernel, outcome.symm.trans same, alike⟩

end EdgePlane.Reconcile
