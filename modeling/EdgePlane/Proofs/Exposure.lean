import EdgePlane.Proofs.Conversation
import EdgePlane.Proofs.Overlap

/-!
# How services are exposed

Whether a load balancer leads to a component is decided three times: in the declared exposure, where
letter case does not count, in the service that is applied, and by the pass itself, which looks the
service up again for the address that it was given. The pass goes by the declared exposure, and so does
the traffic policy of the service. Its type is passed on as it is spelt, while the cluster knows one
spelling only.
-/

namespace EdgePlane

open Kubernetes Management

namespace Kubernetes.Service

def type? (s : Service) : Option String := s.spec.bind (·.type)

def trafficPolicy? (s : Service) : Option String := s.spec.bind (·.externalTrafficPolicy)

/-- Whether the cluster takes the service for one that a load balancer leads to, from outside. -/
def IsBalanced (s : Service) : Prop :=
  s.type? = some ControlPlane.loadBalancerType ∧ s.trafficPolicy? = some "Local"

def IsUnbalanced (s : Service) : Prop :=
  s.type? ≠ some ControlPlane.loadBalancerType ∧ s.trafficPolicy? = none

end Kubernetes.Service

/-- Whether an exposure that stands for a load balancer has the type as the cluster knows it. -/
def ControlPlane.Exposure.IsSpelt (e : Exposure) : Prop :=
  e.isLoadBalancer = true → e.serviceType = loadBalancerType

/-- The router that a call registers. -/
def Call.registered? : Call → Option DefaultRouter
  | .putRouter _ _ router => some router
  | _ => none

/-- Whether a router was registered. -/
def Event.hasRegistered : Event → Bool
  | ⟨.putRouter _ _ _, .ok _⟩ => true
  | _ => false

/-- Whether a call looks up the object at an address. -/
def Call.isLookupOf (a : Address) : Call → Bool
  | .get b => b = a
  | _ => false

theorem Call.address?_of_stores {c : Call} {o : Object} (h : c.stores? = some o) :
    c.address? = some o.address := by
  cases c <;> simp_all [Call.stores?, Call.address?]

/-- Whether a call is not about the object at an address, and registers no router. -/
def Call.IsAside (a : Address) (c : Call) : Prop := c.address? ≠ some a ∧ c.registered? = none

/-- The services that a trace stored at an address. -/
def servicesAt (a : Address) (t : List Event) : List Service :=
  t.filterMap fun e => (e.storedAt? a).bind (·.service?)

/-- Whether a trace looks an object up after it has stored it. -/
def looksBack (a : Address) : List Event → Bool
  | [] => false
  | e :: t => (e.storedAt? a).isSome && t.any (·.call.isLookupOf a) || looksBack a t

section Aside

variable {a : Address} {e : Event} {t u : List Event}

theorem storedAt_of_aside (h : e.call.IsAside a) : e.storedAt? a = none := by
  refine Option.eq_none_iff_forall_ne_some.2 fun o stores => ?_
  obtain ⟨stored, here⟩ := Event.storedAt?_eq_some.1 stores
  rw [← here] at h
  exact h.1 (Event.address?_of_stored stored)

theorem not_lookup_of_aside {c : Call} (h : c.IsAside a) : c.isLookupOf a = false := by
  cases c with
  | get b =>
    refine decide_eq_false fun same => h.1 ?_
    rw [same]
    rfl
  | _ => rfl

theorem not_registered_of_silent (silent : e.call.registered? = none) : e.hasRegistered = false := by
  obtain ⟨c, r⟩ := e
  cases c with
  | putRouter url token router => cases silent
  | _ => rfl

theorem lookups_of_aside (h : ∀ e ∈ t, e.call.IsAside a) : t.any (·.call.isLookupOf a) = false :=
  List.any_eq_false.2 fun e he => by simp [not_lookup_of_aside (h e he)]

theorem registrations_of_aside (h : ∀ e ∈ t, e.call.IsAside a) : t.any (·.hasRegistered) = false :=
  List.any_eq_false.2 fun e he => by simp [not_registered_of_silent (h e he).2]

theorem looksBack_append (unstored : ∀ e ∈ t, e.storedAt? a = none) :
    looksBack a (t ++ u) = looksBack a u := by
  induction t with
  | nil => rfl
  | cons e t ih =>
    obtain ⟨here, later⟩ := List.forall_mem_cons.1 unstored
    rw [List.cons_append, looksBack, here, ih later]
    rfl

/-- To look back is to look. -/
theorem lookup_of_looksBack (h : looksBack a t = true) : t.any (·.call.isLookupOf a) = true := by
  induction t with
  | nil => cases h
  | cons e t ih =>
    rw [looksBack, Bool.or_eq_true, Bool.and_eq_true] at h
    rw [List.any_cons, Bool.or_eq_true]
    exact .inr (h.elim And.right ih)

theorem looksBack_cons_of_stored (stores : (e.storedAt? a).isSome = true) :
    looksBack a (e :: t) = t.any (·.call.isLookupOf a) := by
  rw [looksBack, stores, Bool.true_and]
  cases later : looksBack a t with
  | false => exact Bool.or_false _
  | true => rw [lookup_of_looksBack later]; rfl

theorem servicesAt_append (t u : List Event) : servicesAt a (t ++ u) = servicesAt a t ++ servicesAt a u :=
  List.filterMap_append

theorem servicesAt_cons (e : Event) (t : List Event) :
    servicesAt a (e :: t) = ((e.storedAt? a).bind (·.service?)).toList ++ servicesAt a t := by
  rw [servicesAt, List.filterMap_cons]
  cases (e.storedAt? a).bind (·.service?) <;> rfl

theorem servicesAt_of_unstored (unstored : ∀ e ∈ t, e.storedAt? a = none) : servicesAt a t = [] :=
  List.filterMap_eq_nil_iff.2 fun e he => by rw [unstored e he]; rfl

end Aside

/-! ## The calls that leave a service aside -/

section Only

variable {a : Address}

theorem sync_aside {owner : OwnerReference} {mode : SyncMode} {o : Object} (other : o.address ≠ a) :
    (sync owner mode o).Only (·.IsAside a) := by
  have aside {c : Call} (about : c.address? = some o.address) (silent : c.registered? = none) :
      c.IsAside a :=
    ⟨fun here => other (Option.some.inj (about.symm.trans here)), silent⟩
  exact sync_reach (aside rfl rfl) (aside (by simp [Call.address?]) rfl)
    fun _ => aside (by simp [Call.address?]) rfl

theorem get_aside {b : Address} (other : b ≠ a) : (Attempt.get b).Only (·.IsAside a) :=
  Program.Only.perform ⟨fun here => other (Option.some.inj here), rfl⟩

/-- A call that is about no object and registers nothing. -/
theorem perform_aside {c : Call} (about : c.address? = none) (silent : c.registered? = none) :
    (Program.perform c).Only (·.IsAside a) :=
  Program.Only.perform ⟨by simp [about], silent⟩

namespace Bootstrap

variable (url email : String)

theorem waitUntilAvailable_aside (limit : RetryLimit) :
    (waitUntilAvailable url limit).Only (·.IsAside a) := by
  unfold waitUntilAvailable
  generalize limit.attempts = remaining
  induction remaining with
  | zero => exact .throw _
  | succ n ih =>
    refine .bind (.ofProgram (perform_aside rfl rfl)) fun r => ?_
    cases r with
    | ok status => exact .pure _
    | error e =>
      dsimp only
      split
      · split
        · exact .bind ⟨⟨nofun, rfl⟩, fun _ => trivial⟩ fun _ => ih
        · exact ih
      · exact .throw _

theorem logIn_aside (password : String) : (logIn url email password).Only (·.IsAside a) :=
  .bind (Reconcile.viaApi_reach (perform_aside rfl rfl)) fun _ => .pure _

theorem ensureUser_aside (user : ControlPlane.User) : (ensureUser url user).Only (·.IsAside a) := by
  refine .bind (.ofProgram (perform_aside rfl rfl)) fun r => ?_
  cases r with
  | ok u => exact logIn_aside ..
  | error e =>
    dsimp only
    split
    · exact logIn_aside ..
    · exact .throw _

theorem rotatePassword_aside (old new : String) :
    (rotatePassword url email old new).Only (·.IsAside a) := by
  refine .bind (logIn_aside ..) fun session => .bind ?_ fun _ => logIn_aside ..
  unfold changePassword
  split
  · exact Reconcile.viaApi_reach (perform_aside rfl rfl)
  · exact .pure _

end Bootstrap

variable (service : a.kind = .service)
include service

/-- What is no service is not the service at an address. -/
theorem address_ne_of_kind {b : Address} (kind : b.kind ≠ .service) : b ≠ a := by
  rintro rfl
  exact kind service

theorem getSecret_aside (ns name : String) : (Attempt.getSecret ns name).Only (·.IsAside a) :=
  .bind (get_aside (address_ne_of_kind service nofun)) fun _ => .pure _

theorem Target.syncIdentity_aside (target : Target) (component : Component) :
    (target.syncIdentity component).Only (·.IsAside a) := by
  refine .bind (sync_aside (address_ne_of_kind service nofun)) fun _ => ?_
  split
  · exact .bind (sync_aside (address_ne_of_kind service nofun)) fun _ =>
      .bind (sync_aside (address_ne_of_kind service nofun)) fun _ => .pure _
  · exact .pure _

namespace Reconcile

theorem verifyPullSecret_aside (ns name : String) : (verifyPullSecret ns name).Only (·.IsAside a) := by
  refine .bind (getSecret_aside service ..) fun found => ?_
  cases found with
  | none => exact .throw _
  | some secret =>
    dsimp only
    split
    · exact .pure _
    · exact .throw _

theorem openSession_aside (target : Target) (url : String) (user : ControlPlane.User) :
    (openSession target url user).Only (·.IsAside a) := by
  refine .tryCatch (Bootstrap.ensureUser_aside ..) fun failure => ?_
  split
  · refine .bind (.bind (getSecret_aside service ..) fun found => ?_) fun previous =>
      .bind (Bootstrap.rotatePassword_aside ..) fun session =>
        .bind (sync_aside (address_ne_of_kind service nofun)) fun _ =>
          .bind (get_aside (address_ne_of_kind service nofun)) fun pods => ?_
    · cases found with
      | none => exact .throw _
      | some secret =>
        dsimp only
        split
        · exact .throw _
        · exact .pure _
    · split
      · exact .bind (perform_aside rfl rfl) fun _ => .pure _
      · exact .pure _
  · exact .throw _

end Reconcile

end Only

/-! ## A service in the trace of a pass -/

section Shows

variable {α β : Type} {a : Address} {o : Object} {After : List Event → Prop} {t u : List Event}

/-- How a pass brings the service at an address about, if it comes to that: it looks it up and stores it,
and `After` tells what follows. -/
inductive Shows (a : Address) (o : Object) (After : List Event → Prop) : List Event → Prop
  | hidden (t : List Event) (unstored : ∀ e ∈ t, e.storedAt? a = none)
    (silent : ∀ e ∈ t, e.call.registered? = none) : Shows a o After t
  | shown (t₁ t₂ : List Event) (found : Option Object) (e : Event)
    (before : ∀ e ∈ t₁, e.call.IsAside a) (stores : e.storedAt? a = some o)
    (silent : e.call.registered? = none) (after : After t₂) :
    Shows a o After (t₁ ++ ⟨.get a, .ok found⟩ :: e :: t₂)

namespace Shows

theorem of_aside (h : ∀ e ∈ t, e.call.IsAside a) : Shows a o After t :=
  .hidden t (fun e he => storedAt_of_aside (h e he)) fun e he => (h e he).2

theorem prepend (before : ∀ e ∈ u, e.call.IsAside a) (h : Shows a o After t) :
    Shows a o After (u ++ t) := by
  cases h with
  | hidden _ unstored silent =>
    refine .hidden _ (fun e he => ?_) fun e he => ?_
    · exact (List.mem_append.1 he).elim (fun he => storedAt_of_aside (before e he)) (unstored e)
    · exact (List.mem_append.1 he).elim (fun he => (before e he).2) (silent e)
  | shown t₁ t₂ found e before' stores silent after =>
    rw [← List.append_assoc]
    refine .shown _ t₂ found e (fun e he => ?_) stores silent after
    exact (List.mem_append.1 he).elim (before e) (before' e)

/-- What leaves the service aside can come first. -/
theorem bind {x : Attempt α} {f : α → Attempt β} {r : Except Failure β}
    (h : (x >>= f).run.Plays t r) (aside : x.Only (·.IsAside a))
    (rest : ∀ b u, (f b).run.Plays u r → Shows a o After u) : Shows a o After t := by
  rcases Attempt.plays_bind h with ⟨e, failed, -⟩ | ⟨t₁, b, t₂, rfl, yields, plays⟩
  · exact of_aside (Program.Plays.only failed aside)
  · exact (rest b t₂ plays).prepend (Program.Plays.only yields aside)

/-- The service of a component is shown once its sync succeeds. -/
theorem syncService_bind {target : Target} {component : Component} {definition : ServiceDefinition}
    {f : Unit → Attempt β} {r : Except Failure β} (has : component.service = some definition)
    (h : (target.syncService component >>= f).run.Plays t r)
    (rest : ∀ u, (f ()).run.Plays u r → After u) :
    Shows ⟨.service, target.namespaceName, definition.name⟩
      ((Object.service (component.serviceOf target.namespaceName definition)).ownedBy target.owner)
      After t := by
  have stands : component.serviceObject target.namespaceName =
      some (component.serviceOf target.namespaceName definition) := by
    rw [Component.serviceObject, has]
    rfl
  unfold Target.syncService at h
  simp only [stands] at h
  rcases Attempt.plays_bind h with ⟨e, failed, -⟩ | ⟨t₁, b, t₂, rfl, yields, plays⟩
  · obtain rfl | rfl | ⟨old, rfl, -⟩ := fails_sync (Attempt.fails_bind_pure.1 failed)
    all_goals exact .hidden _ (by simp [Event.storedAt?, Event.stored?]) (by simp [Call.registered?])
  · obtain ⟨result, synced, -⟩ := Attempt.yields_bind_pure.1 yields
    obtain ⟨rfl, -⟩ | ⟨old, rfl, -⟩ | ⟨old, -, ⟨⟩, -⟩ := yields_sync synced
    · exact .shown [] t₂ none _ (by simp) (by simp [Event.storedAt?, Event.stored?]) rfl (rest t₂ plays)
    · exact .shown [] t₂ (some old) _ (by simp) (by simp [Event.storedAt?, Event.stored?]) rfl
        (rest t₂ plays)

theorem mono {After' : List Event → Prop} (h : Shows a o After t) (weaker : ∀ u, After u → After' u) :
    Shows a o After' t := by
  cases h with
  | hidden _ unstored silent => exact .hidden t unstored silent
  | shown t₁ t₂ found e before stores silent after =>
    exact .shown t₁ t₂ found e before stores silent (weaker t₂ after)

/-- A pass that has left the service aside since it was stored can go on. -/
theorem extend (h : Shows a o (fun t => ∀ e ∈ t, e.call.IsAside a) t)
    (stored : ∃ e ∈ t, (e.storedAt? a).isSome = true) (after : ∀ t, (∀ e ∈ t, e.call.IsAside a) →
      After (t ++ u)) : Shows a o After (t ++ u) := by
  cases h with
  | hidden _ unstored silent =>
    obtain ⟨e, he, stores⟩ := stored
    rw [unstored e he] at stores
    cases stores
  | shown t₁ t₂ found e before stores silent aside =>
    have shown : Shows a o After (t₁ ++ ⟨.get a, .ok found⟩ :: e :: (t₂ ++ u)) :=
      .shown t₁ (t₂ ++ u) found e before stores silent (after t₂ aside)
    simpa using shown

/-- Either nothing is stored at the address and no router is registered, or just the service is stored, and
what follows tells whether the pass looks back at it and whether it registers a router. -/
theorem stored_or (h : Shows a o After t) (unstored : ∀ u, After u → ∀ e ∈ u, e.storedAt? a = none) :
    (servicesAt a t = [] ∧ t.any (·.hasRegistered) = false) ∨
      ∃ u, After u ∧ servicesAt a t = o.service?.toList ∧
        looksBack a t = u.any (·.call.isLookupOf a) ∧
        t.any (·.hasRegistered) = u.any (·.hasRegistered) := by
  cases h with
  | hidden _ unstored silent =>
    exact .inl ⟨servicesAt_of_unstored unstored,
      List.any_eq_false.2 fun e he => by simp [not_registered_of_silent (silent e he)]⟩
  | shown t₁ t₂ found e before stores silent after =>
    have early : ∀ e ∈ t₁, e.storedAt? a = none := fun e he => storedAt_of_aside (before e he)
    refine .inr ⟨t₂, after, ?_, ?_, ?_⟩
    · have here : (e.storedAt? a).bind (·.service?) = o.service? := by rw [stores]; rfl
      have none : (Event.storedAt? a ⟨.get a, .ok found⟩).bind (·.service?) = none := rfl
      rw [servicesAt_append, servicesAt_cons, servicesAt_cons, here, none, servicesAt_of_unstored early,
        servicesAt_of_unstored (unstored t₂ after)]
      simp
    · rw [looksBack_append early, looksBack, looksBack_cons_of_stored (by rw [stores]; rfl)]
      rfl
    · rw [List.any_append, registrations_of_aside before, List.any_cons, List.any_cons,
        not_registered_of_silent silent]
      rfl

/-- A router is registered only after the service is stored. -/
theorem after_of_registered (h : Shows a o After t) {e : Event} {router : DefaultRouter} (he : e ∈ t)
    (registers : e.call.registered? = some router) :
    ∃ u, After u ∧ e ∈ u ∧ ∀ e ∈ u, e ∈ t := by
  cases h with
  | hidden _ unstored silent => cases (silent e he).symm.trans registers
  | shown t₁ t₂ found w before stores silent after =>
    refine ⟨t₂, after, ?_, fun e he => by simp [he]⟩
    simp only [List.mem_append, List.mem_cons] at he
    rcases he with he | rfl | rfl | he
    · cases (before e he).2.symm.trans registers
    · cases registers
    · cases silent.symm.trans registers
    · exact he

end Shows

end Shows

/-! ## Agreement -/

/-- How a pass that has stored a service of a component treats it: it looks back at it just if a load
balancer is declared, and the service is one that a load balancer leads to just in the same case, if its
type is spelt right. -/
structure Agrees (exposure : ControlPlane.Exposure) (a : Address) (s : Service) (t : List Event) :
    Prop where
  looks : looksBack a t = exposure.isLoadBalancer
  agree : (looksBack a t = true ↔ s.IsBalanced) ↔ exposure.IsSpelt
  other : looksBack a t = false → s.IsUnbalanced

theorem ControlPlane.serviceType_ne {e : Exposure} (h : e.isLoadBalancer = false) :
    e.serviceType ≠ loadBalancerType := by
  intro same
  rw [Exposure.isLoadBalancer, same] at h
  revert h
  decide

/-- The spec of a service does not depend on its owner. -/
theorem spec_of_ownedBy {owner : OwnerReference} {s s' : Service}
    (h : ((Object.service s).ownedBy owner).service? = some s') : s'.spec = s.spec := by
  cases h
  rfl

theorem agrees_of_looks {exposure : ControlPlane.Exposure} {component : Component} {ns : String}
    {definition : ServiceDefinition} {owner : OwnerReference} {a : Address} {s : Service} {t : List Event}
    (type : definition.type = exposure.serviceType)
    (h : ((Object.service (component.serviceOf ns definition)).ownedBy owner).service? = some s)
    (looks : looksBack a t = exposure.isLoadBalancer) : Agrees exposure a s t := by
  have spec := spec_of_ownedBy h
  have sameMode : definition.isLoadBalancer = exposure.isLoadBalancer := by
    rw [ServiceDefinition.isLoadBalancer, type]
    rfl
  have sameType : s.type? = some exposure.serviceType := by
    rw [Service.type?, spec, ← type]
    rfl
  have policy : s.trafficPolicy? = if exposure.isLoadBalancer then some "Local" else none := by
    rw [Service.trafficPolicy?, spec, ← sameMode]
    rfl
  refine ⟨looks, ?_, fun other => ?_⟩
  · rw [looks, Service.IsBalanced, sameType, policy, ControlPlane.Exposure.IsSpelt]
    cases exposure.isLoadBalancer with
    | true => simp
    | false => simp
  · rw [looks] at other
    rw [Service.IsUnbalanced, sameType, policy, other]
    exact ⟨fun same => ControlPlane.serviceType_ne other (Option.some.inj same), rfl⟩

/-! ## The router's part -/

namespace Reconcile

variable {settings : Setup} {cp : ControlPlane} {ns : String} {target : Target} {t u : List Event}

/-- A part fails at once or goes on with its target, which is in the namespace of the control plane. -/
theorem plays_target {α : Type} {rest : Target → Attempt α} {r : Except Failure α}
    (home : cp.metadata.namespaceName = some ns)
    (h : (Attempt.ofExcept (Target.of cp) >>= rest).run.Plays t r) :
    t = [] ∨ ∃ target, target.namespaceName = ns ∧ (rest target).run.Plays t r := by
  rcases Attempt.plays_bind h with ⟨e, failed, -⟩ | ⟨_, target, u, rfl, found, plays⟩
  · exact .inl (Attempt.fails_ofExcept.1 failed).1
  · obtain ⟨rfl, htarget⟩ := Attempt.yields_ofExcept.1 found
    exact .inr ⟨target, Option.some.inj ((Target.namespaceName_of htarget).1.symm.trans home), plays⟩

/-- The place of a component's service. -/
def serviceAddress (ns name : String) : Address := ⟨.service, ns, name⟩

/-- Whether a trace has the router at a host: at the address that its service was found with, or, unless
a load balancer is declared, at the address of the ingress. -/
def IsHost (cp : ControlPlane) (ns : String) (t : List Event) (host : String) : Prop :=
  if cp.spec.services.router.isLoadBalancer then
    ∃ found, ⟨.get (serviceAddress ns Router.name), .ok found⟩ ∈ t ∧ externalAddress? found = some host
  else host = cp.spec.ingresses.router.address

theorem IsHost.mono {host : String} (h : IsHost cp ns u host) (sub : ∀ e ∈ u, e ∈ t) :
    IsHost cp ns t host := by
  unfold IsHost at h ⊢
  split
  · rename_i balanced
    rw [if_pos balanced] at h
    obtain ⟨found, look, known⟩ := h
    exact ⟨found, sub _ look, known⟩
  · rename_i declared
    rwa [if_neg declared] at h

theorem SeesAddress.isHost {host : String} (h : SeesAddress cp ns host t) : IsHost cp ns t host := by
  unfold SeesAddress at h
  unfold IsHost
  split
  · rename_i balanced
    rw [if_pos balanced] at h
    obtain ⟨found, rfl, known⟩ := h
    exact ⟨found, List.mem_singleton_self _, known⟩
  · rename_i declared
    rw [if_neg declared] at h
    exact h.2

/-- The service of the router is looked up for its address just if a load balancer is declared. -/
theorem lookups_of_routerAddress {r : Except Failure (Option String)}
    (h : (routerAddress cp ns).run.Plays t r) :
    t.any (·.call.isLookupOf (serviceAddress ns Router.name)) =
      cp.spec.services.router.isLoadBalancer := by
  unfold routerAddress at h
  dsimp only at h
  split at h
  · rename_i balanced
    have look : ∃ answer, t = [⟨.get (serviceAddress ns Router.name), answer⟩] := by
      cases r with
      | ok address =>
        obtain ⟨found, rfl, -⟩ := Attempt.yields_discoverAddress.1 h
        exact ⟨.ok found, rfl⟩
      | error e => exact ⟨.error e, Attempt.fails_get.1 (Attempt.fails_bind_pure.1 h)⟩
    obtain ⟨answer, rfl⟩ := look
    simp [balanced, Call.isLookupOf]
  · rename_i declared
    have silent : t = [] := by
      split at h
      · exact (Program.plays_pure.1 h).1
      · exact (Program.plays_pure.1 h).1
    simp [silent, declared]

theorem unstored_of_routerAddress {r : Except Failure (Option String)}
    (h : (routerAddress cp ns).run.Plays t r) (a : Address) : ∀ e ∈ t, e.storedAt? a = none := by
  intro e he
  have within := Program.Plays.only h (routerAddress_reach (W := fun _ => False) cp ns) e he
  exact storedAt_of_within within fun _ stores => stores.elim

/-- What a pass of the router's part does after it has stored the service. -/
structure RouterFollows (cp : ControlPlane) (ns : String) (t : List Event) : Prop where
  unstored : ∀ e ∈ t, e.storedAt? (serviceAddress ns Router.name) = none
  looks : t.any (·.call.isLookupOf (serviceAddress ns Router.name)) =
    cp.spec.services.router.isLoadBalancer

theorem RouterFollows.append (h : RouterFollows cp ns t)
    (aside : ∀ e ∈ u, e.call.IsAside (serviceAddress ns Router.name)) : RouterFollows cp ns (t ++ u) where
  unstored e he := (List.mem_append.1 he).elim (h.unstored e) fun he => storedAt_of_aside (aside e he)
  looks := by rw [List.any_append, lookups_of_aside aside, Bool.or_false, h.looks]

theorem follows_of_routerAddress {r : Except Failure (Option String)}
    (h : (routerAddress cp ns).run.Plays t r) : RouterFollows cp ns t :=
  ⟨unstored_of_routerAddress h _, lookups_of_routerAddress h⟩

theorem routerAuthority_aside {a : Address} (service : a.kind = .service) (pem : PemReader) (target : Target) :
    (routerAuthority pem target).Only (·.IsAside a) := by
  refine .bind (getSecret_aside service ..) fun found => ?_
  cases found with
  | some secret => exact .ofExcept _
  | none =>
    exact .bind (.ofProgram (perform_aside rfl rfl)) fun _ =>
      .bind (sync_aside (address_ne_of_kind service nofun)) fun _ => .pure _

theorem syncLeaf_aside {a : Address} (service : a.kind = .service) (target : Target)
    (ca : KeyedCertificate) (address name : String) :
    (syncLeaf target ca address name).Only (·.IsAside a) :=
  .bind (.ofExcept _) fun _ => .bind (.ofProgram (perform_aside rfl rfl)) fun _ =>
    .bind (sync_aside (address_ne_of_kind service nofun)) fun _ => .pure _

/-- A pass of the router's part that has stored the service looks back at it just if a load balancer is
declared. -/
theorem shows_router {o : Outcome} (home : cp.metadata.namespaceName = some ns)
    (plays : (router settings cp).Plays t o) :
    ∃ owner definition, definition.type = cp.spec.services.router.serviceType ∧
      Shows (serviceAddress ns Router.name)
        ((Object.service ((routerOf settings cp).serviceOf ns definition)).ownedBy owner)
        (RouterFollows cp ns) t := by
  obtain ⟨r, plays, -⟩ := plays_settle_outcome plays
  obtain rfl | ⟨target, rfl, rest⟩ := plays_target home plays
  · exact ⟨default, { (default : ServiceDefinition) with type := _ }, rfl, .of_aside (by simp)⟩
  obtain ⟨definition, has, here, type⟩ : ∃ d, (routerOf settings cp).service = some d ∧
      serviceAddress target.namespaceName Router.name = ⟨.service, target.namespaceName, d.name⟩ ∧
      d.type = cp.spec.services.router.serviceType := ⟨_, rfl, rfl, rfl⟩
  refine ⟨target.owner, definition, type, .bind rest (target.syncIdentity_aside rfl _) fun _ t rest => ?_⟩
  rw [here]
  refine .syncService_bind has rest fun t rest => ?_
  rcases Attempt.plays_bind rest with ⟨e, failed, -⟩ | ⟨t₁, address, t₂, rfl, found, rest⟩
  · exact follows_of_routerAddress failed
  refine (follows_of_routerAddress found).append (Program.Plays.only rest ?_)
  cases address with
  | none => exact Attempt.Only.pure _
  | some address =>
    exact Attempt.Only.bind (routerAuthority_aside rfl settings.pem target) fun ca =>
      .bind (.bind (syncLeaf_aside rfl ..) fun _ => .bind (syncLeaf_aside rfl ..) fun _ => .pure _)
        fun _ => .bind (sync_aside (address_ne_of_kind rfl nofun)) fun _ => .pure _

/-- Whether the leaf secrets that a trace stored are for the router's host. -/
def IssuesForHost (cp : ControlPlane) (ns : String) (t : List Event) : Prop :=
  ∀ name ∈ Router.leafSecretNames, ∀ e ∈ t, ∀ o, e.storedAt? ⟨.secret, ns, name⟩ = some o →
    ∃ host ca leaf owner, IsHost cp ns t host ∧ IsLeaf ns ca host name leaf ∧ o = leaf.ownedBy owner

namespace IssuesForHost

theorem of_spared (h : ∀ e ∈ t, SparesSecrets e.call) : IssuesForHost cp ns t := by
  intro name _ e he o stores
  obtain ⟨stored, here⟩ := Event.storedAt?_eq_some.1 stores
  exact absurd (by rw [here]) (h e he _ (Event.address?_of_stored stored))

/-- What spares all secrets comes before those that are issued. -/
theorem bind {α β : Type} {x : Attempt α} {f : α → Attempt β} {r : Except Failure β}
    (h : (x >>= f).run.Plays t r) (spares : x.Only SparesSecrets)
    (rest : ∀ a u, (f a).run.Plays u r → IssuesForHost cp ns u) : IssuesForHost cp ns t := by
  rcases Attempt.plays_bind h with ⟨e, failed, -⟩ | ⟨t₁, a, t₂, rfl, yields, plays⟩
  · exact of_spared (Program.Plays.only failed spares)
  have early : IssuesForHost cp ns t₁ := of_spared (Program.Plays.only yields spares)
  intro name isLeaf e he o stores
  rcases List.mem_append.1 he with he | he
  · obtain ⟨host, ca, leaf, owner, known, issued⟩ := early name isLeaf e he o stores
    exact ⟨host, ca, leaf, owner, known.mono fun e he => List.mem_append_left t₂ he, issued⟩
  · obtain ⟨host, ca, leaf, owner, known, issued⟩ := rest a t₂ plays name isLeaf e he o stores
    exact ⟨host, ca, leaf, owner, known.mono fun e he => List.mem_append_right t₁ he, issued⟩

end IssuesForHost

/-- Whether a call that stores a leaf secret stores one for an address. -/
def StoresLeafFor (ns address : String) (c : Call) : Prop :=
  ∀ name ∈ Router.leafSecretNames, ∀ o, c.stores? = some o → o.address = ⟨.secret, ns, name⟩ →
    ∃ ca leaf owner, IsLeaf ns ca address name leaf ∧ o = leaf.ownedBy owner

theorem storesLeafFor_of_spared {address : String} {c : Call} (h : SparesSecrets c) :
    StoresLeafFor ns address c := by
  intro name _ o stores here
  exact absurd (by rw [here]) (h _ (Call.address?_of_stores stores))

theorem storesLeafFor_of_stores {ca : KeyedCertificate} {address : String} {c : Call}
    (h : StoresLeaves target ca address c) : StoresLeafFor target.namespaceName address c := by
  intro name _ o stores here
  obtain ⟨name', -, same, leaf⟩ := h _ (Call.address?_of_stores stores) (by rw [here])
  obtain rfl : name = name' := by
    rw [here] at same
    exact congrArg Address.name same
  obtain ⟨leaf, issued, rfl⟩ := leaf o stores
  exact ⟨ca, leaf, target.owner, issued, rfl⟩

theorem storesLeafFor_of_silent {address : String} {c : Call} (h : c.stores? = none) :
    StoresLeafFor ns address c := by
  intro name _ o stores
  rw [h] at stores
  cases stores

theorem routerAuthority_storesNoLeaf (pem : PemReader) (target : Target) (address : String) :
    (routerAuthority pem target).Only (StoresLeafFor target.namespaceName address) := by
  refine .bind (.bind (Program.Only.perform (storesLeafFor_of_silent rfl)) fun _ => .pure _) fun found => ?_
  cases found with
  | some secret => exact .ofExcept _
  | none =>
    refine .bind (.ofProgram (Program.Only.perform (storesLeafFor_of_silent rfl))) fun fresh =>
      .bind (sync_about fun c about stored name isLeaf o stores here => ?_) fun _ => .pure _
    rw [stored o stores, Object.address_ownedBy] at here
    exact absurd here (not_leaf_authority isLeaf target.namespaceName target.namespaceName)

/-- The leaf secrets that a pass of the router's part stores are for its host. -/
theorem issuesForHost_router {o : Outcome} (home : cp.metadata.namespaceName = some ns)
    (plays : (router settings cp).Plays t o) : IssuesForHost cp ns t := by
  obtain ⟨r, plays, -⟩ := plays_settle_outcome plays
  obtain rfl | ⟨target, rfl, rest⟩ := plays_target home plays
  · exact .of_spared (by simp)
  refine .bind rest (syncIdentity_spares ..) fun _ t rest => ?_
  refine .bind rest (syncService_spares ..) fun _ t rest => ?_
  rcases Attempt.plays_bind rest with ⟨e, failed, -⟩ | ⟨t₁, address, t₂, rfl, found, rest⟩
  · exact .of_spared (Program.Plays.only failed (routerAddress_spares ..))
  cases address with
  | none =>
    obtain ⟨rfl, -⟩ := Program.plays_pure.1 rest
    rw [List.append_nil]
    exact .of_spared (Program.Plays.only found (routerAddress_spares ..))
  | some address =>
    have known := (yields_routerAddress found).isHost
    have leaf (ca : KeyedCertificate) {name : String} (isLeaf : name ∈ Router.leafSecretNames) :
        (syncLeaf target ca address name).Only (StoresLeafFor target.namespaceName address) :=
      (syncLeaf_stores target ca address isLeaf).mono fun _ => storesLeafFor_of_stores
    have issues : ∀ e ∈ t₂, StoresLeafFor target.namespaceName address e.call := by
      refine Program.Plays.only rest (Attempt.Only.bind (routerAuthority_storesNoLeaf ..) fun ca =>
        .bind (.bind (leaf ca ?_) fun _ => .bind (leaf ca ?_) fun _ => .pure _) fun _ =>
          .bind ((sync_spares ?_).mono fun _ => storesLeafFor_of_spared) fun _ => .pure _)
      all_goals simp [Router.leafSecretNames, Object.kind]
    intro name isLeaf e he o stores
    obtain ⟨stored, here⟩ := Event.storedAt?_eq_some.1 stores
    rcases List.mem_append.1 he with he | he
    · have unstored := unstored_of_routerAddress found ⟨.secret, target.namespaceName, name⟩ e he
      cases unstored.symm.trans stores
    · obtain ⟨ca, leaf, owner, issued⟩ := issues e he name isLeaf o (Event.stores?_of_stored stored) here
      exact ⟨address, ca, leaf, owner, known.mono fun e he => List.mem_append_left t₂ he, issued⟩

/-! ## The controller's part -/

/-- What a pass of the controller's part does after it has stored the service. -/
structure ControllerFollows (cp : ControlPlane) (ns : String) (t : List Event) : Prop where
  unstored : ∀ e ∈ t, e.storedAt? (serviceAddress ns Controller.name) = none
  looks : t.any (·.hasRegistered) = true →
    t.any (·.call.isLookupOf (serviceAddress ns Controller.name)) =
      cp.spec.services.controller.isLoadBalancer
  registers : ∀ e ∈ t, ∀ router, e.call.registered? = some router →
    ∃ host, IsHost cp ns t host ∧ router = registration cp host

namespace ControllerFollows

theorem of_aside (h : ∀ e ∈ t, e.call.IsAside (serviceAddress ns Controller.name)) :
    ControllerFollows cp ns t where
  unstored e he := storedAt_of_aside (h e he)
  looks registered := by
    rw [registrations_of_aside h] at registered
    cases registered
  registers e he router registers := by
    rw [(h e he).2] at registers
    cases registers

theorem prepend (before : ∀ e ∈ u, e.call.IsAside (serviceAddress ns Controller.name))
    (h : ControllerFollows cp ns t) : ControllerFollows cp ns (u ++ t) where
  unstored e he := (List.mem_append.1 he).elim (fun he => storedAt_of_aside (before e he)) (h.unstored e)
  looks registered := by
    rw [List.any_append, registrations_of_aside before, Bool.false_or] at registered
    rw [List.any_append, lookups_of_aside before, Bool.false_or, h.looks registered]
  registers e he router registers := by
    rcases List.mem_append.1 he with he | he
    · rw [(before e he).2] at registers
      cases registers
    · obtain ⟨host, known, same⟩ := h.registers e he router registers
      exact ⟨host, known.mono fun e he => List.mem_append_right u he, same⟩

theorem bind {α β : Type} {x : Attempt α} {f : α → Attempt β} {r : Except Failure β}
    (h : (x >>= f).run.Plays t r) (aside : x.Only (·.IsAside (serviceAddress ns Controller.name)))
    (rest : ∀ b u, (f b).run.Plays u r → ControllerFollows cp ns u) : ControllerFollows cp ns t := by
  rcases Attempt.plays_bind h with ⟨e, failed, -⟩ | ⟨t₁, b, t₂, rfl, yields, plays⟩
  · exact of_aside (Program.Plays.only failed aside)
  · exact (rest b t₂ plays).prepend (Program.Plays.only yields aside)

end ControllerFollows

theorem serviceAddress_ne (ns : String) :
    serviceAddress ns Router.name ≠ serviceAddress ns Controller.name := by
  simp [serviceAddress, Router.name, Controller.name]

theorem routerAddress_aside (cp : ControlPlane) (ns : String) :
    (routerAddress cp ns).Only (·.IsAside (serviceAddress ns Controller.name)) := by
  unfold routerAddress
  dsimp only
  split
  · exact .bind (get_aside (serviceAddress_ne ns)) fun _ => .pure _
  · split
    · exact .throw _
    · exact .pure _

/-- The check from outside looks the service of the controller up just if a load balancer is declared. -/
theorem lookups_of_checkOutside {r : Except Failure Outcome}
    (h : (checkOutside settings cp ns).run.Plays t r) :
    t.any (·.call.isLookupOf (serviceAddress ns Controller.name)) =
      cp.spec.services.controller.isLoadBalancer := by
  unfold checkOutside at h
  cases balanced : cp.spec.services.controller.isLoadBalancer with
  | false =>
    rw [balanced] at h
    rw [(Program.plays_pure.1 h).1]
    rfl
  | true =>
    rw [balanced, Bool.not_true, if_neg Bool.false_ne_true] at h
    rcases Attempt.plays_bind h with ⟨e, failed, -⟩ | ⟨t₁, address, t₂, rfl, discovered, rest⟩
    · obtain rfl := Attempt.fails_get.1 (Attempt.fails_bind_pure.1 failed)
      simp [Call.isLookupOf, serviceAddress]
    · obtain ⟨found, rfl, -⟩ := Attempt.yields_discoverAddress.1 discovered
      simp [Call.isLookupOf, serviceAddress]

/-- A check from outside stores nothing and registers nothing. -/
theorem idle_of_probes (h : Probes ns t) (a : Address) :
    ∀ e ∈ t, e.storedAt? a = none ∧ e.call.registered? = none := by
  cases h <;> simp [Event.storedAt?, Event.stored?, Call.registered?]

theorem follows_of_bootstrap {r : Except Failure Outcome}
    (h : (bootstrapController settings target cp).run.Plays t r) :
    ControllerFollows cp target.namespaceName t := by
  refine .bind h (perform_aside rfl rfl) fun _ t rest => ?_
  refine .bind rest (Bootstrap.waitUntilAvailable_aside ..) fun _ t rest => ?_
  refine .bind rest (openSession_aside rfl ..) fun session t rest => ?_
  rcases Attempt.plays_bind rest with ⟨e, failed, -⟩ | ⟨t₁, address, t₂, rfl, found, rest⟩
  · exact .of_aside (Program.Plays.only failed (routerAddress_aside ..))
  have aside := Program.Plays.only found (routerAddress_aside ..)
  cases address with
  | none =>
    obtain ⟨rfl, -⟩ := Program.plays_pure.1 rest
    rw [List.append_nil]
    exact .of_aside aside
  | some host =>
    have known := (yields_routerAddress found).isHost
    -- A registration is for the host, and the controller is checked from outside only after it went well.
    have registered {answer : Except ApiError Unit} {v : List Event}
        (idle : ∀ e ∈ v, e.storedAt? (serviceAddress target.namespaceName Controller.name) = none ∧
          e.call.registered? = none)
        (looks : answer = .ok () → v.any (·.call.isLookupOf
          (serviceAddress target.namespaceName Controller.name)) =
            cp.spec.services.controller.isLoadBalancer) :
        ControllerFollows cp target.namespaceName (t₁ ++ ⟨.putRouter
          (internalUrl target.namespaceName) session.token (registration cp host), answer⟩ :: v) := by
      refine ⟨fun e he => ?_, fun went => ?_, fun e he router registers => ?_⟩
      · rcases List.mem_append.1 he with he | he
        · exact storedAt_of_aside (aside e he)
        rcases List.mem_cons.1 he with rfl | he
        · rfl
        · exact (idle e he).1
      · have none : v.any (·.hasRegistered) = false :=
          List.any_eq_false.2 fun e he => by simp [not_registered_of_silent (idle e he).2]
        rw [List.any_append, registrations_of_aside aside, List.any_cons, none, Bool.or_false,
          Bool.false_or] at went
        rw [List.any_append, lookups_of_aside aside, List.any_cons]
        cases answer with
        | ok u => exact looks rfl
        | error e => cases went
      · refine ⟨host, known.mono fun e he => List.mem_append_left _ he, ?_⟩
        rcases List.mem_append.1 he with he | he
        · cases (aside e he).2.symm.trans registers
        rcases List.mem_cons.1 he with rfl | he
        · exact (Option.some.inj registers).symm
        · cases (idle e he).2.symm.trans registers
    rcases Attempt.plays_bind rest with ⟨e, failed, -⟩ | ⟨t₃, u, t₄, rfl, went, last⟩
    · obtain ⟨cause, refused, -⟩ := Attempt.fails_viaApi.1 failed
      obtain rfl := (Program.plays_perform rfl).1 refused
      exact registered (by simp) nofun
    · obtain rfl := (Program.plays_perform rfl).1 (Attempt.yields_viaApi.1 went)
      exact registered (idle_of_probes (probes_of_checkOutside last) _) fun _ => lookups_of_checkOutside last

/-- Of the controller's objects the service is stored once, and left aside before and after that. -/
theorem shows_syncController {r : Except Failure (Bool × Bool)}
    {definition : ServiceDefinition} (has : (controllerOf settings cp).service = some definition)
    (h : (syncController settings target cp).run.Plays t r) :
    Shows ⟨.service, target.namespaceName, definition.name⟩
      ((Object.service ((controllerOf settings cp).serviceOf target.namespaceName definition)).ownedBy
        target.owner)
      (fun t => ∀ e ∈ t, e.call.IsAside ⟨.service, target.namespaceName, definition.name⟩) t := by
  refine .bind h (target.syncIdentity_aside rfl _) fun _ t rest => ?_
  refine .bind rest (getSecret_aside rfl ..) fun found t rest => ?_
  refine .bind rest (sync_aside (address_ne_of_kind rfl nofun)) fun _ t rest => ?_
  refine .syncService_bind has rest fun t rest => Program.Plays.only rest ?_
  have deployed (o : Object) (other : o.address.kind ≠ .service) : (target.syncObject o).Only
      (·.IsAside ⟨.service, target.namespaceName, definition.name⟩) :=
    sync_aside (address_ne_of_kind rfl other)
  dsimp only
  split
  · exact Attempt.Only.bind (deployed _ nofun) fun _ => .bind (deployed _ nofun) fun _ => .pure _
  · exact Attempt.Only.bind (deployed _ nofun) fun _ => .pure _

/-- A sync of the controller's objects that succeeds has stored the service. -/
theorem service_stored_of_syncController {existed changed : Bool} {definition : ServiceDefinition}
    (has : (controllerOf settings cp).service = some definition)
    (h : (syncController settings target cp).Yields t (existed, changed)) :
    ∃ e ∈ t, (e.storedAt? ⟨.service, target.namespaceName, definition.name⟩).isSome = true := by
  obtain ⟨t₁, found, t₂, r, t₃, rfl, -, -, -, last⟩ := yields_syncController h
  have stored : (Object.service ((controllerOf settings cp).serviceOf target.namespaceName
      definition)).ownedBy target.owner ∈ stored t₃ := by
    rw [last, Target.owned]
    refine List.mem_map_of_mem ?_
    simp [Component.services, Component.serviceObject, has]
  obtain ⟨e, he, stores⟩ := List.mem_filterMap.1 stored
  refine ⟨e, by simp [he], ?_⟩
  rw [Event.storedAt?_eq_some.2 ⟨stores, by rw [Object.address_ownedBy, Component.address_serviceOf]⟩]
  rfl

theorem shows_driveController {r : Except Failure Outcome} {definition : ServiceDefinition}
    (has : (controllerOf settings cp).service = some definition)
    (here : serviceAddress target.namespaceName Controller.name =
      ⟨.service, target.namespaceName, definition.name⟩)
    (h : (driveController settings target cp).run.Plays t r) :
    Shows (serviceAddress target.namespaceName Controller.name)
      ((Object.service ((controllerOf settings cp).serviceOf target.namespaceName definition)).ownedBy
        target.owner)
      (ControllerFollows cp target.namespaceName) t := by
  rcases Attempt.plays_bind h with ⟨e, failed, -⟩ | ⟨t₁, ⟨existed, changed⟩, t₂, rfl, synced, rest⟩
  · have shown := shows_syncController has failed
    rw [← here] at shown
    exact shown.mono fun _ => .of_aside
  have shown := shows_syncController has synced
  have stored := service_stored_of_syncController has synced
  rw [← here] at shown stored
  have follows : ControllerFollows cp target.namespaceName t₂ := by
    cases existed with
    | false =>
      obtain ⟨rfl, -⟩ := Program.plays_pure.1 rest
      exact .of_aside (by simp)
    | true =>
      cases changed with
      | false => exact follows_of_bootstrap rest
      | true => exact .bind rest (perform_aside rfl rfl) fun _ t => follows_of_bootstrap
  exact shown.extend stored fun t aside => follows.prepend aside

/-- A pass of the controller's part that has registered the router looks back at the service just if a
load balancer is declared. -/
theorem shows_controller {o : Outcome} (home : cp.metadata.namespaceName = some ns)
    (plays : (controller settings cp).Plays t o) :
    ∃ owner definition, definition.type = cp.spec.services.controller.serviceType ∧
      Shows (serviceAddress ns Controller.name)
        ((Object.service ((controllerOf settings cp).serviceOf ns definition)).ownedBy owner)
        (ControllerFollows cp ns) t := by
  obtain ⟨r, plays, -⟩ := plays_settle_outcome plays
  obtain rfl | ⟨target, rfl, rest⟩ := plays_target home plays
  · exact ⟨default, { (default : ServiceDefinition) with type := _ }, rfl, .of_aside (by simp)⟩
  obtain ⟨definition, has, here, type⟩ : ∃ d, (controllerOf settings cp).service = some d ∧
      serviceAddress target.namespaceName Controller.name = ⟨.service, target.namespaceName, d.name⟩ ∧
      d.type = cp.spec.services.controller.serviceType := ⟨_, rfl, rfl, rfl⟩
  refine ⟨target.owner, definition, type, ?_⟩
  dsimp only at rest
  split at rest
  · exact .bind rest (verifyPullSecret_aside rfl ..) fun _ t => shows_driveController has here
  · exact shows_driveController has here rest

/-- How a router is registered: behind a load balancer at the address that its service was found with and at
the usual ports, and otherwise at the declared address and ports of the ingress. -/
structure RegistersAt (cp : ControlPlane) (ns : String) (t : List Event) (router : DefaultRouter) :
    Prop where
  balanced : cp.spec.services.router.isLoadBalancer = true →
    ∃ found host, ⟨.get (serviceAddress ns Router.name), .ok found⟩ ∈ t ∧
      externalAddress? found = some host ∧
      router = ⟨host, some Router.messagePort, some Router.edgePort, some Router.interiorPort⟩
  declared : cp.spec.services.router.isLoadBalancer = false →
    router = ⟨cp.spec.ingresses.router.address,
      some (portOr cp.spec.ingresses.router.messagePort Router.messagePort),
      some (portOr cp.spec.ingresses.router.edgePort Router.edgePort),
      some (portOr cp.spec.ingresses.router.interiorPort Router.interiorPort)⟩

theorem IsHost.registersAt {host : String} (h : IsHost cp ns t host) :
    RegistersAt cp ns t (registration cp host) where
  balanced balanced := by
    rw [IsHost, if_pos balanced] at h
    obtain ⟨found, look, known⟩ := h
    exact ⟨found, host, look, known, by rw [registration, if_pos balanced]⟩
  declared declared := by
    rw [IsHost, declared, if_neg Bool.false_ne_true] at h
    rw [registration, declared, if_neg Bool.false_ne_true, h]

/-- The parts of the router and of the controller treat their services as they are declared. The router's
part looks back at the service that it stored just if a load balancer is declared, and the controller's
part does once it has registered the router. The certificates and the registration are for the address
that the service was found with, or for that of the ingress. The stored service agrees with all of this
exactly if a load balancer is spelt as the cluster knows it. -/
theorem exposure_agrees_iff_spelt (settings : Setup) (home : cp.metadata.namespaceName = some ns) :
    (∀ t o, (router settings cp).Plays t o →
      (∀ s ∈ servicesAt (serviceAddress ns Router.name) t,
        Agrees cp.spec.services.router (serviceAddress ns Router.name) s t) ∧
      IssuesForHost cp ns t) ∧
    ∀ t o, (controller settings cp).Plays t o →
      (t.any (·.hasRegistered) = true → ∃ s, servicesAt (serviceAddress ns Controller.name) t = [s] ∧
        Agrees cp.spec.services.controller (serviceAddress ns Controller.name) s t) ∧
      ∀ url token router answer, ⟨.putRouter url token router, answer⟩ ∈ t →
        RegistersAt cp ns t router := by
  refine ⟨fun t o plays => ⟨fun s stored => ?_, issuesForHost_router home plays⟩, fun t o plays =>
    ⟨fun went => ?_, fun url token router answer registers => ?_⟩⟩
  · obtain ⟨owner, definition, type, shown⟩ := shows_router home plays
    rcases shown.stored_or fun _ => RouterFollows.unstored with ⟨none, -⟩ | ⟨u, follows, just, looks, -⟩
    · rw [none] at stored
      cases stored
    · rw [just] at stored
      exact agrees_of_looks type (Option.mem_toList.1 stored) (looks.trans follows.looks)
  · obtain ⟨owner, definition, type, shown⟩ := shows_controller home plays
    rcases shown.stored_or fun _ => ControllerFollows.unstored with
      ⟨-, never⟩ | ⟨u, follows, just, looks, same⟩
    · cases never.symm.trans went
    · exact ⟨_, just, agrees_of_looks type rfl (looks.trans (follows.looks (same ▸ went)))⟩
  · obtain ⟨owner, definition, -, shown⟩ := shows_controller home plays
    obtain ⟨u, follows, he, sub⟩ := shown.after_of_registered registers rfl
    obtain ⟨host, known, rfl⟩ := follows.registers _ he router rfl
    exact (known.mono sub).registersAt

section Runs

open Simulation

/-- A control plane in the namespace `ns` with exposures of a type. -/
def exposedControlPlane (type : String) : ControlPlane :=
  let plain := plainControlPlane "a@b.c" (.ofPlain "two") {}
  { plain with spec := { plain.spec with services := ⟨{ type }, { type }⟩ } }

/-- Without a load balancer the router's part looks up nothing, and the controller's part registers the
router at the ingress. -/
theorem exposure_agrees_behind_ingress :
    (servicesAt (serviceAddress "ns" Router.name)
      (({} : World).trace (router .standard (exposedControlPlane "ClusterIP")))).length = 1 ∧
    (∀ s ∈ servicesAt (serviceAddress "ns" Router.name)
        (({} : World).trace (router .standard (exposedControlPlane "ClusterIP"))),
      Agrees { type := "ClusterIP" } (serviceAddress "ns" Router.name) s
        (({} : World).trace (router .standard (exposedControlPlane "ClusterIP")))) ∧
    ∃ s, servicesAt (serviceAddress "ns" Controller.name)
        (outdatedWorld.trace (controller .standard (exposedControlPlane "ClusterIP"))) = [s] ∧
      Agrees { type := "ClusterIP" } (serviceAddress "ns" Controller.name) s
        (outdatedWorld.trace (controller .standard (exposedControlPlane "ClusterIP"))) := by
  have home : (exposedControlPlane "ClusterIP").metadata.namespaceName = some "ns" := rfl
  have agrees := exposure_agrees_iff_spelt .standard home
  exact ⟨by decide +kernel, (agrees.1 _ _ (World.plays_trace _ _)).1,
    (agrees.2 _ _ (World.plays_trace _ _)).1 (by decide +kernel)⟩

instance : DecidablePred Service.IsBalanced := fun _ => inferInstanceAs (Decidable (_ ∧ _))

/-- A router that is exposed in lower case is looked up for the address of its load balancer, but its
service is none that a load balancer leads to. -/
theorem looksBack_lowercase :
    ∃ s ∈ servicesAt (serviceAddress "ns" Router.name)
        (({} : World).trace (router .standard (exposedControlPlane "loadbalancer"))),
      s.type? = some "loadbalancer" ∧
      ¬ (looksBack (serviceAddress "ns" Router.name)
          (({} : World).trace (router .standard (exposedControlPlane "loadbalancer"))) = true ↔
        s.IsBalanced) := by
  decide +kernel

end Runs

end Reconcile

end EdgePlane
