import EdgePlane.Proofs.Conversation
import EdgePlane.Proofs.Credentials
import EdgePlane.Proofs.Locality
import EdgePlane.Proofs.Turns

/-!
# Control planes in different namespaces

All that a pass over a control plane reads or changes is its own: the objects of its namespace, its
conditions, its retries, the management interface inside the cluster under the URL of its namespace, and the
one from outside under a URL that it found at its own service. So the visits of two control planes in
different namespaces do not interfere, however their calls fall between each other.
-/

namespace EdgePlane

open Kubernetes
open Simulation (Location World Visitor)

/-- Whether a call is about none but some locations. -/
def Call.KeepsTo (D : Location → Prop) (c : Call) : Prop := ∀ x, c.location? = some x → D x

/-- The locations that the components of a namespace have: its objects and its management interface. -/
def Location.IsIn (ns : String) : Location → Prop
  | .object a => a.namespaceName = ns
  | .api url => url = Reconcile.internalUrl ns
  | .controlPlane _ _ => False
  | .retry _ => False

namespace Reconcile

open Bootstrap

variable {settings : Setup} {cp : ControlPlane} {target : Target} {ns : String} {t : List Event}
  {α β : Type}

/-- Whether an attempt calls in a namespace only. -/
abbrev CallsIn (ns : String) (x : Attempt α) : Prop := x.Only (Call.KeepsTo (Location.IsIn ns))

theorem keepsTo_of_location {D : Location → Prop} {c : Call} {x : Location} (h : c.location? = some x)
    (inside : D x) : c.KeepsTo D := by
  intro y here
  rw [h] at here
  exact Option.some.inj here ▸ inside

theorem keepsTo_of_none {D : Location → Prop} {c : Call} (h : c.location? = none) : c.KeepsTo D := by
  intro x here
  rw [h] at here
  cases here

theorem callsIn_get {a : Address} (h : a.namespaceName = ns) : CallsIn ns (Attempt.get a) :=
  Program.Only.perform (keepsTo_of_location rfl h)

theorem callsIn_getSecret (ns name : String) : CallsIn ns (Attempt.getSecret ns name) :=
  .bind (callsIn_get rfl) fun _ => .pure _

theorem callsIn_discoverAddress (ns name : String) : CallsIn ns (Attempt.discoverAddress ns name) :=
  .bind (callsIn_get rfl) fun _ => .pure _

theorem callsIn_restart (ns name : String) : CallsIn ns (Attempt.restart ns name) :=
  Program.Only.perform (keepsTo_of_location rfl rfl)

theorem callsIn_drawKey : CallsIn ns Attempt.drawKey :=
  .ofProgram (Program.Only.perform (keepsTo_of_none rfl))

theorem callsIn_connect (url : String) : CallsIn ns (Attempt.connect url) :=
  Program.Only.perform (keepsTo_of_none rfl)

/-- Bringing an object about is a matter of its namespace. -/
theorem callsIn_sync {owner : OwnerReference} {mode : SyncMode} {o : Object}
    (h : o.address.namespaceName = ns) : CallsIn ns (sync owner mode o) := by
  have owned : (o.ownedBy owner).address.namespaceName = ns := by rwa [Object.address_ownedBy]
  exact sync_reach (keepsTo_of_location rfl h) (keepsTo_of_location rfl owned)
    fun _ => keepsTo_of_location rfl owned

theorem callsIn_syncIdentity (target : Target) (component : Component) :
    CallsIn target.namespaceName (target.syncIdentity component) := by
  refine .bind (callsIn_sync rfl) fun _ => ?_
  split
  · exact .bind (callsIn_sync rfl) fun _ => .bind (callsIn_sync rfl) fun _ => .pure _
  · exact .pure _

theorem callsIn_syncService (target : Target) (component : Component) :
    CallsIn target.namespaceName (target.syncService component) := by
  unfold Target.syncService
  split
  · rename_i s declared
    obtain ⟨d, -, rfl⟩ := Option.map_eq_some_iff.1 declared
    exact .bind (callsIn_sync rfl) fun _ => .pure _
  · exact .pure _

theorem callsIn_routerAddress (cp : ControlPlane) (ns : String) : CallsIn ns (routerAddress cp ns) := by
  unfold routerAddress
  dsimp only
  split
  · exact callsIn_discoverAddress ns Router.name
  · split
    · exact .throw _
    · exact .pure _

theorem callsIn_routerAuthority (pem : PemReader) (target : Target) :
    CallsIn target.namespaceName (routerAuthority pem target) := by
  refine .bind (callsIn_getSecret ..) fun found => ?_
  cases found with
  | some secret => exact .ofExcept _
  | none => exact .bind callsIn_drawKey fun _ => .bind (callsIn_sync rfl) fun _ => .pure _

theorem callsIn_syncLeaf (target : Target) (ca : KeyedCertificate) (address name : String) :
    CallsIn target.namespaceName (syncLeaf target ca address name) :=
  .bind (.ofExcept _) fun _ => .bind callsIn_drawKey fun _ => .bind (callsIn_sync rfl) fun _ => .pure _

/-- The router's part keeps to its namespace. -/
theorem callsIn_router (settings : Setup) (home : ∀ ns', cp.metadata.namespaceName = some ns' → ns' = ns) :
    (router settings cp).Only (Call.KeepsTo (Location.IsIn ns)) := by
  refine only_settle (only_ofExcept_bind fun target found => ?_)
  obtain rfl := home _ (Target.namespaceName_of found).1
  refine .bind (callsIn_syncIdentity ..) fun _ => .bind (callsIn_syncService ..) fun _ =>
    .bind (callsIn_routerAddress ..) fun address => ?_
  cases address with
  | none => exact .pure _
  | some address =>
    refine .bind (callsIn_routerAuthority settings.pem target) fun ca => .bind ?_ fun _ =>
      .bind (callsIn_sync rfl) fun _ => .pure _
    exact .bind (callsIn_syncLeaf ..) fun _ => .bind (callsIn_syncLeaf ..) fun _ => .pure _

/-- The port manager's part keeps to its namespace. -/
theorem callsIn_portManager (settings : Setup)
    (home : ∀ ns', cp.metadata.namespaceName = some ns' → ns' = ns) :
    (portManager settings cp).Only (Call.KeepsTo (Location.IsIn ns)) := by
  refine only_settle (only_ofExcept_bind fun target found => ?_)
  obtain rfl := home _ (Target.namespaceName_of found).1
  exact .bind (callsIn_syncIdentity ..) fun _ => .bind (callsIn_sync rfl) fun _ =>
    .bind (callsIn_sync rfl) fun _ => .pure _

theorem callsIn_verifyPullSecret (ns name : String) : CallsIn ns (verifyPullSecret ns name) := by
  refine .bind (callsIn_getSecret ns name) fun found => ?_
  cases found with
  | none => exact .throw _
  | some secret =>
    dsimp only
    split
    · exact .pure _
    · exact .throw _

theorem callsIn_syncController (settings : Setup) (target : Target) (cp : ControlPlane) :
    CallsIn target.namespaceName (syncController settings target cp) := by
  refine .bind (callsIn_syncIdentity ..) fun _ => .bind (callsIn_getSecret ..) fun _ =>
    .bind (callsIn_sync rfl) fun _ => .bind (callsIn_syncService ..) fun _ => ?_
  dsimp only
  split
  · exact .bind (callsIn_sync rfl) fun _ => .bind (callsIn_sync rfl) fun _ => .pure _
  · exact .bind (callsIn_sync rfl) fun _ => .pure _

theorem callsIn_wait (ns : String) (limit : RetryLimit) :
    CallsIn ns (waitUntilAvailable (internalUrl ns) limit) := by
  unfold waitUntilAvailable
  generalize limit.attempts = remaining
  induction remaining with
  | zero => exact .throw _
  | succ n ih =>
    refine .bind (.ofProgram (Program.Only.perform (keepsTo_of_location rfl rfl))) fun r => ?_
    cases r with
    | ok status => exact .pure _
    | error e =>
      dsimp only
      split
      · split
        · exact .bind ⟨keepsTo_of_none rfl, fun _ => trivial⟩ fun _ => ih
        · exact ih
      · exact .throw _

/-- What is about an account of a namespace's interface is in the namespace. -/
theorem keepsTo_of_account {c : Call} (h : c.isAccountAt (internalUrl ns)) :
    c.KeepsTo (Location.IsIn ns) := by
  cases c <;> simp [Call.isAccountAt] at h
  all_goals exact keepsTo_of_location rfl h

theorem callsIn_openSession (target : Target) (user : ControlPlane.User) :
    CallsIn target.namespaceName (openSession target (internalUrl target.namespaceName) user) := by
  refine .tryCatch ((ensureUser_reach ..).mono fun _ => keepsTo_of_account) fun failure => ?_
  split
  · refine .bind ?_ fun previous => .bind ((rotatePassword_reach ..).mono fun _ => keepsTo_of_account)
      fun session => .bind (callsIn_sync rfl) fun _ => .bind (callsIn_get rfl) fun deployment => ?_
    · refine .bind (callsIn_getSecret ..) fun found => ?_
      cases found with
      | none => exact .throw _
      | some secret =>
        dsimp only
        split
        · exact .throw _
        · exact .pure _
    · split
      · exact .bind (callsIn_restart ..) fun _ => .pure _
      · exact .pure _
  · exact .throw _

/-- An attempt that ends with at most a check from outside, and keeps to its namespace before. -/
def EndsOutside (ns : String) (x : Attempt α) : Prop :=
  ∀ t r, x.run.Plays t r →
    ∃ inside outside, t = inside ++ outside ∧ (∀ e ∈ inside, e.call.KeepsTo (Location.IsIn ns)) ∧
      Probes ns outside

namespace EndsOutside

theorem of_callsIn {x : Attempt α} (h : CallsIn ns x) : EndsOutside ns x := fun t _ plays =>
  ⟨t, [], (List.append_nil t).symm, Program.Plays.only plays h, .none⟩

theorem bind {x : Attempt α} {f : α → Attempt β} (hx : CallsIn ns x) (hf : ∀ a, EndsOutside ns (f a)) :
    EndsOutside ns (x >>= f) := by
  intro t r plays
  rcases Attempt.plays_bind plays with ⟨e, failed, -⟩ | ⟨t₁, a, t₂, rfl, first, rest⟩
  · exact of_callsIn hx t _ failed
  · obtain ⟨inside, outside, rfl, home, probes⟩ := hf a t₂ r rest
    refine ⟨t₁ ++ inside, outside, (List.append_assoc ..).symm, fun e he => ?_, probes⟩
    rcases List.mem_append.1 he with he | he
    · exact Program.Plays.only first hx e he
    · exact home e he

end EndsOutside

theorem endsOutside_bootstrap (settings : Setup) (target : Target) (cp : ControlPlane) :
    EndsOutside target.namespaceName (bootstrapController settings target cp) := by
  refine .bind (callsIn_connect _) fun _ => .bind (callsIn_wait ..) fun _ =>
    .bind (callsIn_openSession ..) fun session => .bind (callsIn_routerAddress ..) fun address => ?_
  cases address with
  | none => exact .of_callsIn (.pure _)
  | some host =>
    have register : CallsIn target.namespaceName
        (registerRouter (internalUrl target.namespaceName) session (registration cp host)) :=
      viaApi_reach (Program.Only.perform (keepsTo_of_location rfl rfl))
    exact .bind register fun _ t r plays => ⟨[], t, rfl, List.forall_mem_nil _, probes_of_checkOutside plays⟩

/-- The controller's part keeps to its namespace, but for a check from outside at its end. -/
theorem endsOutside_controller {o : Outcome} (home : ∀ ns', cp.metadata.namespaceName = some ns' → ns' = ns)
    (h : (controller settings cp).Plays t o) :
    ∃ inside outside, t = inside ++ outside ∧ (∀ e ∈ inside, e.call.KeepsTo (Location.IsIn ns)) ∧
      Probes ns outside := by
  obtain ⟨r, plays, -⟩ := plays_settle_outcome h
  rcases Attempt.plays_bind plays with ⟨e, failed, -⟩ | ⟨t₁, target, t₂, rfl, found, rest⟩
  · obtain ⟨rfl, -⟩ := Attempt.fails_ofExcept.1 failed
    exact ⟨[], [], rfl, List.forall_mem_nil _, .none⟩
  obtain ⟨rfl, htarget⟩ := Attempt.yields_ofExcept.1 found
  obtain rfl := home _ (Target.namespaceName_of htarget).1
  have drive : EndsOutside target.namespaceName (driveController settings target cp) := by
    refine .bind (callsIn_syncController ..) fun result => ?_
    dsimp only
    split
    · exact .of_callsIn (.pure _)
    · split
      · exact .bind (callsIn_restart ..) fun _ => endsOutside_bootstrap settings target cp
      · exact endsOutside_bootstrap settings target cp
  rw [List.nil_append]
  dsimp only at rest
  split at rest
  · exact EndsOutside.bind (callsIn_verifyPullSecret ..) (fun _ => drive) _ _ rest
  · exact drive _ _ rest

/-- The URL of a namespace's controller from outside that an event finds: the service is looked up, and its
load balancer has an address. -/
def urlFound? (ns : String) : Event → Option String
  | ⟨.get a, .ok found⟩ =>
    if a = ⟨.service, ns, Controller.name⟩ then
      (externalAddress? found).map (Net.apiBaseUrl · Controller.apiPort)
    else none
  | _ => none

/-- The URLs of a namespace's controller from outside that a trace finds. -/
def urlsFound (ns : String) (t : List Event) : List String := t.filterMap (urlFound? ns)

theorem urlsFound_mono {u : List Event} {url : String} (h : url ∈ urlsFound ns t) (sub : ∀ e ∈ t, e ∈ u) :
    url ∈ urlsFound ns u := by
  obtain ⟨e, he, found⟩ := List.mem_filterMap.1 h
  exact List.mem_filterMap.2 ⟨e, sub e he, found⟩

/-- A check from outside is of the namespace's own service, and of what is found there. -/
theorem Probes.location {e : Event} {x : Location} (h : Probes ns t) (he : e ∈ t)
    (here : e.call.location? = some x) :
    Location.IsIn ns x ∨ ∃ url ∈ urlsFound ns t, x = .api url := by
  have look {r : Except Failure (Option Object)}
      (is : e = ⟨.get ⟨.service, ns, Controller.name⟩, r⟩) : Location.IsIn ns x := by
    subst is
    cases here
    rfl
  have outward {url : String} {r : Except Failure Unit} (is : e = ⟨.connect url, r⟩) : False := by
    subst is
    cases here
  cases h with
  | none => cases he
  | unknown r => exact .inl (look (List.mem_singleton.1 he))
  | unopened found address cause known =>
    simp only [List.mem_cons, List.not_mem_nil, or_false] at he
    rcases he with is | is
    · exact .inl (look is)
    · exact (outward is).elim
  | asked found address answer known =>
    simp only [List.mem_cons, List.not_mem_nil, or_false] at he
    rcases he with is | is | is
    · exact .inl (look is)
    · exact (outward is).elim
    · subst is
      cases here
      exact .inr ⟨_, by simp [urlsFound, urlFound?, known], rfl⟩

end Reconcile

open Reconcile

namespace Simulation.Visitor

/-- The URLs of the management interface that a visitor uses: the one inside the cluster, and those that
are found from outside. -/
def urls (v : Visitor) (t : List Event) : List String :=
  internalUrl v.namespaceName :: urlsFound v.namespaceName t

/-- What belongs to a visitor: the objects of the namespace, its own control plane and retries, and the
management interface at the URLs that are used. -/
def Owns (v : Visitor) (t : List Event) : Location → Prop
  | .object a => a.namespaceName = v.namespaceName
  | .controlPlane ns name => (ns, name) = (v.namespaceName, v.name)
  | .api url => url ∈ v.urls t
  | .retry key => key = v.key

variable {v a b : Visitor} {t u : List Event} {x : Location}

theorem Owns.of_isIn (h : Location.IsIn v.namespaceName x) : v.Owns t x := by
  cases x with
  | object a => exact h
  | api url => exact List.mem_cons.2 (.inl h)
  | controlPlane ns name => exact h.elim
  | retry key => exact h.elim

theorem Owns.mono (h : v.Owns t x) (sub : ∀ e ∈ t, e ∈ u) : v.Owns u x := by
  cases x with
  | api url => exact List.mem_cons.2 ((List.mem_cons.1 h).imp id (urlsFound_mono · sub))
  | _ => exact h

/-- A key tells its namespace, where a namespace has no slash in it. -/
theorem namespaceName_of_key (plainA : '/' ∉ a.namespaceName.toList) (plainB : '/' ∉ b.namespaceName.toList)
    (h : a.key = b.key) : a.namespaceName = b.namespaceName := by
  have before (v : Visitor) (plain : '/' ∉ v.namespaceName.toList) :
      v.key.toList.takeWhile (· ≠ '/') = v.namespaceName.toList := by
    have all : ∀ c ∈ v.namespaceName.toList, decide (c ≠ '/') = true := fun c hc =>
      decide_eq_true fun is => plain (is ▸ hc)
    rw [Visitor.key, String.toList_append, String.toList_append, List.append_assoc,
      List.takeWhile_append_of_pos all]
    simp
  refine String.toList_injective ?_
  rw [← before a plainA, ← before b plainB, h]

/-- In different namespaces nothing belongs to two visitors, if neither uses a URL that the other finds from
outside. -/
theorem Owns.apart (distinct : a.namespaceName ≠ b.namespaceName) (plainA : '/' ∉ a.namespaceName.toList)
    (plainB : '/' ∉ b.namespaceName.toList) (outsideA : (urlsFound a.namespaceName t).Disjoint (b.urls u))
    (outsideB : (urlsFound b.namespaceName u).Disjoint (a.urls t)) (hA : a.Owns t x) : ¬ b.Owns u x := by
  intro hB
  cases x with
  | object address => exact distinct (hA.symm.trans hB)
  | controlPlane ns name => exact distinct (congrArg Prod.fst (hA.symm.trans hB))
  | retry key => exact distinct (namespaceName_of_key plainA plainB (hA.symm.trans hB))
  | api url =>
    rcases List.mem_cons.1 hA with insideA | foundA
    · rcases List.mem_cons.1 hB with insideB | foundB
      · exact distinct (internalUrl_injective (insideA.symm.trans insideB))
      · exact outsideB foundB hA
    · exact outsideA foundA hB

end Simulation.Visitor

namespace Reconcile

open Simulation (Cluster)

variable {settings : Setup} {cp : ControlPlane} {v : Visitor} {t : List Event} {o : Outcome}

/-- What the parts of a pass call belongs to the visitor. -/
theorem Parts.owns (p : Parts settings cp t)
    (home : ∀ ns, cp.metadata.namespaceName = some ns → ns = v.namespaceName) :
    ∀ e ∈ t, e.call.KeepsTo (v.Owns t) := by
  have within {e : Event} (keeps : e.call.KeepsTo (Location.IsIn v.namespaceName)) :
      e.call.KeepsTo (v.Owns t) := fun x here => .of_isIn (keeps x here)
  intro e he
  rcases p.apart.mem_iff.1 he with he | he
  · exact within (p.playsRouter.only (callsIn_router settings home) e he)
  rcases p.othersApart.mem_iff.1 he with he | he
  · obtain ⟨inside, outside, split, inner, probes⟩ := endsOutside_controller home p.playsController
    rw [split] at he
    rcases List.mem_append.1 he with he | he
    · exact within (inner e he)
    · intro x here
      rcases probes.location he here with isIn | ⟨url, found, rfl⟩
      · exact .of_isIn isIn
      · refine List.mem_cons_of_mem _ (urlsFound_mono found fun e' he' =>
          p.apart.mem_iff.2 (.inr (p.othersApart.mem_iff.2 (.inl ?_))))
        rw [split]
        exact List.mem_append_right inside he'
  · exact within (p.playsPortManager.only (callsIn_portManager settings home) e he)

/-- What a pass calls belongs to the visitor, if the control plane that it finds is the visitor's. -/
theorem owns_of_dispatch (h : (dispatch settings v.namespaceName v.name).Plays t o)
    (placed : ∀ cp, ⟨.fetch v.namespaceName v.name, .ok (some cp)⟩ ∈ t →
      Cluster.placeOf cp = (v.namespaceName, v.name)) :
    ∀ e ∈ t, e.call.KeepsTo (v.Owns t) := by
  have fetch : (Call.fetch v.namespaceName v.name).KeepsTo (v.Owns t) := keepsTo_of_location rfl rfl
  have now : Call.now.KeepsTo (v.Owns t) := keepsTo_of_none rfl
  have record {cp : ControlPlane} (place : Cluster.placeOf cp = (v.namespaceName, v.name))
      (conditions : List ControlPlane.Condition) : (Call.record cp conditions).KeepsTo (v.Owns t) :=
    keepsTo_of_location rfl place
  have deploys {cp : ControlPlane} {before : List Event} (entry : Deploys cp before)
      (place : Cluster.placeOf cp = (v.namespaceName, v.name)) {e : Event} (he : e ∈ before) :
      e.call.KeepsTo (v.Owns t) := by
    obtain ⟨time, rfl | rfl⟩ := entry.mem he
    · exact now
    · exact record place _
  have parts {cp : ControlPlane} {m : List Event}
      (place : Cluster.placeOf cp = (v.namespaceName, v.name)) (p : Parts settings cp m)
      (sub : ∀ e ∈ m, e ∈ t) {e : Event} (he : e ∈ m) : e.call.KeepsTo (v.Owns t) := by
    have home (ns : String) (is : cp.metadata.namespaceName = some ns) : ns = v.namespaceName := by
      have first := congrArg Prod.fst place
      rwa [Cluster.placeOf, is] at first
    exact fun x here => (p.owns home e he x here).mono sub
  cases visits_of_plays h with
  | unreadable cause =>
    intro e he
    obtain rfl := List.mem_singleton.1 he
    exact fetch
  | gone =>
    intro e he
    simp only [List.mem_cons, List.not_mem_nil, or_false] at he
    rcases he with rfl | rfl
    · exact fetch
    · exact keepsTo_of_location rfl rfl
  | idle cp phase =>
    intro e he
    obtain rfl := List.mem_singleton.1 he
    exact fetch
  | refused cp phase time cause =>
    have place := placed cp (by simp)
    intro e he
    simp only [List.mem_cons, List.not_mem_nil, or_false] at he
    rcases he with rfl | rfl | rfl
    · exact fetch
    · exact now
    · exact record place _
  | pending cp before m entry p unclean =>
    have place := placed cp (by simp)
    intro e he
    simp only [List.mem_cons, List.mem_append] at he
    rcases he with rfl | he | he
    · exact fetch
    · exact deploys entry place he
    · exact parts place p (by simp +contextual) he
  | converged cp before m entry p clean time r =>
    have place := placed cp (by simp)
    intro e he
    simp only [List.mem_cons, List.mem_append, List.not_mem_nil, or_false] at he
    rcases he with rfl | he | he | rfl | rfl
    · exact fetch
    · exact deploys entry place he
    · exact parts place p (by simp +contextual) he
    · exact now
    · exact record place _

/-- The events of moves. -/
abbrev events (ms : List Move) : List Event := ms.filterMap Move.event?

/-- The moves of a visitor: one pass after the other, each with the conclusion from its decision at its
end. -/
inductive Visiting (settings : Setup) (v : Visitor) : List Move → Prop
  | done : Visiting settings v []
  | pass (pass : List Move) (o : Outcome) (action : Action) (rest : List Move)
    (calls : ∀ m ∈ pass, m.event?.isSome = true)
    (plays : (dispatch settings v.namespaceName v.name).Plays (events pass) o)
    (later : Visiting settings v rest) :
    Visiting settings v (pass ++ .conclude v o.decision action :: rest)

theorem events_map_call (t : List Event) : events (t.map .call) = t := by
  rw [events, List.filterMap_map]
  exact List.filterMap_some

/-- What a visitor does is about what belongs to it, if the control planes that are found are in their
places. -/
theorem Visiting.within {l : List Move} (h : Visiting settings v l)
    (placed : ∀ m ∈ l, ∀ ns name cp, m.event? = some ⟨.fetch ns name, .ok (some cp)⟩ →
      Cluster.placeOf cp = (ns, name)) : ∀ m ∈ l, m.Within (v.Owns (events l)) := by
  induction h with
  | done => exact List.forall_mem_nil _
  | pass pass o action rest calls plays later ih =>
    have first : ∀ e ∈ events pass, e ∈ events (pass ++ .conclude v o.decision action :: rest) := by
      intro e he
      rw [events, List.filterMap_append]
      exact List.mem_append_left _ he
    have others : ∀ e ∈ events rest, e ∈ events (pass ++ .conclude v o.decision action :: rest) :=
      fun e he => by
        rw [events, List.filterMap_append]
        exact List.mem_append_right _ he
    have found (cp : ControlPlane) (he : ⟨.fetch v.namespaceName v.name, .ok (some cp)⟩ ∈ events pass) :
        Cluster.placeOf cp = (v.namespaceName, v.name) := by
      obtain ⟨m, hm, is⟩ := List.mem_filterMap.1 he
      exact placed m (List.mem_append_left _ hm) _ _ cp is
    intro m hm x here
    rcases List.mem_append.1 hm with hm | hm
    · obtain ⟨e, is⟩ := Option.isSome_iff_exists.1 (calls m hm)
      have he : e ∈ events pass := List.mem_filterMap.2 ⟨m, hm, is⟩
      have same : m.location? = e.call.location? := by
        cases m <;> cases is <;> rfl
      exact (owns_of_dispatch plays found e he x (same ▸ here)).mono first
    rcases List.mem_cons.1 hm with rfl | hm
    · cases here
      rfl
    · exact (ih (fun m hm => placed m (List.mem_append_right _ (List.mem_cons_of_mem _ hm))) m hm x here).mono
        others

end Reconcile

namespace Simulation

/-- Whether every control plane of a cluster is in its place. -/
def Cluster.IsPlaced (c : Cluster) : Prop :=
  ∀ ns name cp, c.controlPlane? ns name = some cp → Cluster.placeOf cp = (ns, name)

theorem Cluster.IsPlaced.insertControlPlane {c : Cluster} (h : c.IsPlaced) (cp : ControlPlane) :
    (c.insertControlPlane cp).IsPlaced := by
  intro ns name cp' found
  rw [Cluster.insertControlPlane, Cluster.controlPlane?, Dict.get?_insert] at found
  split at found
  · rename_i here
    rw [← Option.some.inj found, here]
  · exact h ns name cp' found

namespace World

variable {w w' : World} {ms : List Move}

/-- Control planes stay in their places. -/
theorem isPlaced_answer (h : w.cluster.IsPlaced) (c : Call) : (World.answer c w).2.cluster.IsPlaced := by
  by_cases writes : ∃ cp conditions, c = .record cp conditions
  · obtain ⟨cp, conditions, rfl⟩ := writes
    intro ns name cp' found
    rw [World.answer] at found
    obtain ⟨-, -, ⟨-, -, kept⟩ | ⟨-, made⟩⟩ :=
      askCluster_cases w (.record cp conditions) (·.record cp conditions)
    · exact h ns name cp' (by rwa [kept] at found)
    rw [made] at found
    rcases w.cluster.record_cases cp conditions with ⟨-, kept⟩ | ⟨-, written⟩
    · exact h ns name cp' (by rwa [kept] at found)
    rw [written] at found
    split at found
    · rename_i here
      cases Option.some.inj found
      cases stored : w.cluster.controlPlanes.get? (Cluster.placeOf cp) with
      | none => exact here.symm
      | some old => exact (h _ _ old stored).trans here.symm
    · exact h ns name cp' found
  · have same := controlPlanes_answer c w fun cp conditions is => writes ⟨cp, conditions, is⟩
    intro ns name cp found
    exact h ns name cp (by rwa [Cluster.controlPlane?, same] at found)

/-- What is found in a life is in its place. -/
theorem Lives.placed (h : w.Lives ms w') (placed : w.cluster.IsPlaced) :
    ∀ m ∈ ms, ∀ ns name cp, m.event? = some ⟨.fetch ns name, .ok (some cp)⟩ →
      Cluster.placeOf cp = (ns, name) := by
  induction h with
  | done w => exact List.forall_mem_nil _
  | sleep d _ ih => exact ih (isPlaced_answer placed _)
  | @call w w' ms e fits _ ih =>
    intro m hm ns name cp is
    rcases List.mem_cons.1 hm with rfl | hm
    · cases is
      rcases fits with chance | ⟨-, replied⟩
      · cases chance
      obtain ⟨-, -, ⟨-, ⟨e, failed⟩, -⟩ | ⟨reply, -⟩⟩ :=
        askCluster_cases w (.fetch ns name) fun c => (c.fetch ns name, c)
      · cases replied.trans failed
      · have found := replied.trans reply
        dsimp only [Cluster.fetch] at found
        split at found
        · cases found
        · exact placed ns name cp (Except.ok.inj found).symm
    · exact ih (isPlaced_answer placed _) m hm ns name cp is
  | lost e failed _ ih =>
    intro m hm ns name cp is
    rcases List.mem_cons.1 hm with rfl | hm
    · cases is
      cases failed
    · exact ih placed m hm ns name cp is
  | conclude visitor decision _ ih =>
    intro m hm ns name cp is
    rcases List.mem_cons.1 hm with rfl | hm
    · cases is
    · exact ih placed m hm ns name cp is

end World

end Simulation

namespace Reconcile

open Simulation.World (Confined)

variable {settings : Setup} {a b : Visitor} {l r ms : List Move} {w w' : World}

/-- However the visits of control planes in different namespaces fall between each other, each is confined to
what belongs to it, and they come to the same as if those of one were all made before those of the other. -/
theorem visits_apart (distinct : a.namespaceName ≠ b.namespaceName) (plainA : '/' ∉ a.namespaceName.toList)
    (plainB : '/' ∉ b.namespaceName.toList) (reliable : w.faults = []) (placed : w.cluster.IsPlaced)
    (visitsA : Visiting settings a l) (visitsB : Visiting settings b r)
    (outsideA : (urlsFound a.namespaceName (events l)).Disjoint (b.urls (events r)))
    (outsideB : (urlsFound b.namespaceName (events r)).Disjoint (a.urls (events l)))
    (woven : Interleaving l r ms) (lives : w.Lives ms w') :
    Confined (a.Owns (events l)) w l w' ∧ Confined (b.Owns (events r)) w r w' ∧
      (∃ u v, w.Lives l u ∧ u.Lives r v ∧ ∀ x, w'.at x = v.at x) ∧
      ∃ u v, w.Lives r u ∧ u.Lives l v ∧ ∀ x, w'.at x = v.at x := by
  have found := lives.placed placed
  have withinA : ∀ m ∈ l, m.Within (a.Owns (events l)) :=
    visitsA.within fun m hm => found m (woven.mem_iff.2 (.inl hm))
  have withinB : ∀ m ∈ r, m.Within (b.Owns (events r)) :=
    visitsB.within fun m hm => found m (woven.mem_iff.2 (.inr hm))
  have apart (x : Location) (hA : a.Owns (events l) x) : ¬ b.Owns (events r) x :=
    hA.apart distinct plainA plainB outsideA outsideB
  have apart' (x : Location) (hB : b.Owns (events r) x) (hA : a.Owns (events l) x) : False :=
    apart x hA hB
  exact ⟨lives.confined apart woven withinA withinB, lives.confined apart' woven.swap withinB withinA,
    lives.sequential apart reliable woven withinA withinB,
    lives.sequential apart' reliable woven.swap withinB withinA⟩

/-- Two passes that take turns and end, and then their conclusions, are the visits of their visitors. -/
theorem lives_of_turns (visitors : Bool → Visitor) {schedule : List Bool} {outcomes : Bool → Outcome}
    {rest : (Bool → Program Outcome) × List (Bool × Event) × World}
    (run : w.turns schedule (fun i => dispatch settings (visitors i).namespaceName (visitors i).name) = rest)
    (ended : ∀ i, (rest.1 i).result? = some (outcomes i)) :
    ∃ l r ms w', Visiting settings (visitors true) l ∧ Visiting settings (visitors false) r ∧
      Interleaving l r ms ∧ w.Lives ms w' ∧ events l = own true rest.2.1 ∧ events r = own false rest.2.1 := by
  subst run
  have played := World.takeTurns_turns ended
  have follows := World.follows_turns schedule
    (fun i => dispatch settings (visitors i).namespaceName (visitors i).name) w
  revert played follows
  generalize w.turns schedule (fun i => dispatch settings (visitors i).namespaceName (visitors i).name) = run
  obtain ⟨-, t, after⟩ := run
  intro played follows
  have visiting (i : Bool) (action : Action) : Visiting settings (visitors i)
      ((own i t).map .call ++ [.conclude (visitors i) (outcomes i).decision action]) := by
    refine .pass _ _ _ [] (fun m hm => ?_) ?_ .done
    · obtain ⟨e, -, rfl⟩ := List.mem_map.1 hm
      rfl
    · rw [events_map_call]
      exact played i
  have said (i : Bool) (action : Action) :
      events ((own i t).map .call ++ [.conclude (visitors i) (outcomes i).decision action]) = own i t := by
    rw [events, List.filterMap_append, ← events, events_map_call]
    exact List.append_nil _
  have woven : Interleaving ((own true t).map Move.call) ((own false t).map .call)
      ((t.map (·.2)).map .call) := by
    simpa only [List.filterMap_eq_map'] using (interleaving_own t).filterMap fun e => some (Move.call e)
  exact ⟨_, _, _, _, visiting true _, visiting false _, woven.append ((Interleaving.nil.right _).left _),
    (World.Lives.of_follows follows).append (.conclude (visitors true) (outcomes true).decision
      (.conclude (visitors false) (outcomes false).decision (.done _))), said true _, said false _⟩

open Simulation (plainControlPlane Cluster)

/-- A west and an east control plane. The controller in the west is behind a load balancer. -/
def resident (west : Bool) : ControlPlane :=
  let plain := plainControlPlane "a@b.c" (.ofPlain "two") {}
  let controller : ControlPlane.Exposure := { type := if west then "LoadBalancer" else "ClusterIP" }
  { plain with
    metadata := { plain.metadata with namespaceName := some (if west then "west" else "east") }
    spec := { plain.spec with services := { plain.spec.services with controller } } }

/-- The visitor of a resident. -/
def residence (west : Bool) : Visitor := ⟨if west then "west" else "east", "ecn"⟩

/-- A world with both residents, whose controllers were deployed before. -/
def sharedWorld : World where
  cluster :=
    let controllers := (({} : Cluster).insert
        (.deployment { metadata := .named "west" Controller.name })).insert
      (.deployment { metadata := .named "east" Controller.name })
    let exposed := controllers.insert
      (.service { metadata := .named "west" Controller.name, status := some (Service.statusAt "10.0.0.5") })
    (exposed.insertControlPlane (resident true)).insertControlPlane (resident false)

/-- Their passes in that world, which take turns for a call each. -/
def sharedTurns : (Bool → Program Outcome) × List (Bool × Event) × World :=
  sharedWorld.turns (List.replicate 60 [true, false]).flatten fun west =>
    dispatch .standard (residence west).namespaceName (residence west).name

/-- Both passes come to their ends, both talk to their interfaces, and one of them from outside too. -/
theorem run_sharedTurns :
    (∀ west, (sharedTurns.1 west).result? = some .requeueNow) ∧
      (exchanges (own true sharedTurns.2.1)).length = 5 ∧ (exchanges (own false sharedTurns.2.1)).length = 4 ∧
      urlsFound "west" (own true sharedTurns.2.1) =
        ["http://10.0.0.5:51121/api/v3", "http://10.0.0.5:51121/api/v3"] ∧
      urlsFound "east" (own false sharedTurns.2.1) = [] := by
  decide +kernel

theorem isPlaced_sharedWorld : sharedWorld.cluster.IsPlaced :=
  have none : (({} : Cluster)).IsPlaced := fun ns name cp found => by cases found
  .insertControlPlane (.insertControlPlane none _) _

/-- The two do not interfere. -/
theorem visits_apart_in_sharedWorld :
    ∃ l r ms w', Visiting .standard (residence true) l ∧ Visiting .standard (residence false) r ∧
      Interleaving l r ms ∧ sharedWorld.Lives ms w' ∧ (exchanges (events l)).length = 5 ∧
      (exchanges (events r)).length = 4 ∧
      Confined ((residence true).Owns (events l)) sharedWorld l w' ∧
      Confined ((residence false).Owns (events r)) sharedWorld r w' ∧
      ∃ u v, sharedWorld.Lives l u ∧ u.Lives r v ∧ ∀ x, w'.at x = v.at x := by
  obtain ⟨ended, west, east, foundWest, foundEast⟩ := run_sharedTurns
  obtain ⟨l, r, ms, w', visitsWest, visitsEast, woven, lives, didWest, didEast⟩ :=
    lives_of_turns residence (show _ = sharedTurns from rfl) ended
  have apartWest : (urlsFound "west" (events l)).Disjoint ((residence false).urls (events r)) := by
    rw [Visitor.urls, didWest, didEast]
    show (urlsFound "west" (own true sharedTurns.2.1)).Disjoint
      (internalUrl "east" :: urlsFound "east" (own false sharedTurns.2.1))
    rw [foundWest, foundEast]
    intro url west east
    have outside : url = "http://10.0.0.5:51121/api/v3" := by simpa using west
    have inside : url = internalUrl "east" := List.mem_singleton.1 east
    exact absurd (outside.symm.trans inside) (by decide)
  have apartEast : (urlsFound "east" (events r)).Disjoint ((residence true).urls (events l)) := by
    rw [didEast]
    show (urlsFound "east" (own false sharedTurns.2.1)).Disjoint _
    rw [foundEast]
    exact fun url east => absurd east List.not_mem_nil
  obtain ⟨confinedWest, confinedEast, first, -⟩ :=
    visits_apart (a := residence true) (b := residence false) (by decide) (by decide) (by decide) rfl
      isPlaced_sharedWorld visitsWest visitsEast apartWest apartEast woven lives
  exact ⟨l, r, ms, w', visitsWest, visitsEast, woven, lives, didWest ▸ west, didEast ▸ east, confinedWest,
    confinedEast, first⟩

end Reconcile

end EdgePlane
