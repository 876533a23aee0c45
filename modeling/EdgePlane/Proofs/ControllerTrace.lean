import EdgePlane.Proofs.CleanPart

/-!
# How far the controller's part gets

The controller's part can stop at any of its calls. Its trace tells how far it got: whether the
settings of the database were stored, whether pods had to be replaced, whether the management interface
was turned to, and whether a session was opened there.
-/

namespace EdgePlane

/-- The calls that register a router at a URL. -/
def Call.isRegistration (url : String) : Call → Bool
  | .putRouter u _ _ => u = url
  | _ => false

/-- The calls about single objects, other than the replacement of pods. -/
def Call.isAboutObject : Call → Bool
  | .get _ => true
  | .create _ => true
  | .apply _ => true
  | _ => false

/-- The calls about single objects of other kinds than one. -/
def Call.IsApartFrom (kind : Kubernetes.Kind) : Call → Prop
  | .get a => a.kind ≠ kind
  | .create o => o.address.kind ≠ kind
  | .apply o => o.address.kind ≠ kind
  | _ => False

/-- The calls of the controller's part outside of sessions. -/
def Call.IsBeside (ns : String) (c : Call) : Prop :=
  c.Within (·.address.name ∈ Reconcile.ownNames) ∨ c = .restart ns Controller.name ∨
    c.isRegistration (Reconcile.internalUrl ns)

namespace Reconcile

open Kubernetes

variable {settings : Setup} {cp : ControlPlane} {target : Target} {t : List Event}

/-- The place of the settings of the database. -/
def databaseAddress (ns : String) : Address := ⟨.secret, ns, Controller.databaseSecretName⟩

/-- The place of the controller's deployment. -/
def controllerAddress (ns : String) : Address := ⟨.deployment, ns, Controller.name⟩

/-- Outside of sessions the controller's part stores its own objects only. -/
theorem storedAt_of_beside {ns : String} {e : Event} (h : e.call.IsBeside ns) {a : Address}
    (apart : a.name ∉ ownNames) : e.storedAt? a = none := by
  rcases h with within | restart | registers
  · refine storedAt_of_within within fun o ho heq => ?_
    rw [heq] at ho
    exact apart ho
  · obtain ⟨c, r⟩ := e
    obtain rfl := restart
    rfl
  · obtain ⟨c, r⟩ := e
    cases c <;> first | rfl | simp [Call.isRegistration] at registers

/-- What is about objects of other kinds leaves those of one kind alone. -/
theorem storedAt_of_apart {e : Event} {a : Address} {kind : Kind} (h : e.call.IsApartFrom kind)
    (here : a.kind = kind) : e.storedAt? a = none := by
  have away (o : Object) (other : o.address.kind ≠ kind) : o.address ≠ a := by
    rintro rfl
    exact other here
  obtain ⟨c, r⟩ := e
  cases c <;> first | rfl | exact h.elim | skip
  · exact storedAt_of_within (.inr ⟨_, rfl, h⟩) away
  · exact storedAt_of_within (.inr ⟨_, rfl, h⟩) away

/-- How far the bootstrap of the controller gets once it has turned to the interface. -/
inductive Bootstraps (target : Target) (cp : ControlPlane) : List Event → Prop
  /-- The interface does not serve. -/
  | unavailable (t : List Event) (quiet : ∀ e ∈ t, e.call.isQuiet) : Bootstraps target cp t
  /-- It serves, and a session is opened there or not. -/
  | available (t₁ t₂ t₃ : List Event) (session : Except Failure Session)
    (before : ∀ e ∈ t₁, e.call.isQuiet)
    (opened : (openSession target (internalUrl target.namespaceName) cp.spec.user).run.Plays
      t₂ session)
    (after : ∀ e ∈ t₃, e.call.isQuiet ∨
      e.call.isRegistration (internalUrl target.namespaceName)) :
    Bootstraps target cp (t₁ ++ (t₂ ++ t₃))

/-- How far the controller's part gets. -/
inductive Brings (settings : Setup) (cp : ControlPlane) (target : Target) : List Event → Prop
  /-- Some object could not be brought about. -/
  | unsynced (t : List Event) (e : Failure)
    (synced : (syncController settings target cp).Fails t e) : Brings settings cp target t
  /-- The controller was only just deployed. -/
  | fresh (t : List Event) (changed : Bool)
    (synced : (syncController settings target cp).Yields t (false, changed)) :
    Brings settings cp target t
  /-- Its pods could not be replaced. -/
  | stuck (t : List Event) (e : Failure)
    (synced : (syncController settings target cp).Yields t (true, true)) :
    Brings settings cp target (t ++ [⟨.restart target.namespaceName Controller.name, .error e⟩])
  /-- The interface is turned to, after pods were replaced if settings changed. -/
  | reached (t u : List Event) (changed : Bool) (answer : Except Failure Unit)
    (synced : (syncController settings target cp).Yields t (true, changed))
    (bootstrapped : Bootstraps target cp u) :
    Brings settings cp target (t ++
      ((if changed then [⟨.restart target.namespaceName Controller.name, .ok ()⟩] else []) ++
        ⟨.connect (internalUrl target.namespaceName), answer⟩ :: u))

theorem quiet_of_only {α : Type} {x : Attempt α} {r : Except Failure α}
    (plays : x.run.Plays t r) (only : x.Only (Call.Within fun _ => False)) :
    ∀ e ∈ t, e.call.isQuiet := by
  intro e he
  rcases Program.Plays.only plays only e he with quiet | ⟨o, -, ⟨⟩⟩
  exact quiet

theorem lookups_of_verifyPullSecret {ns name : String} {r : Except Failure Unit}
    (plays : (verifyPullSecret ns name).run.Plays t r) : ∀ e ∈ t, ∃ a, e.call = .get a := by
  refine Program.Plays.only (P := fun c => ∃ a, c = .get a) plays
    (Attempt.Only.bind (.bind (Program.Only.perform ⟨_, rfl⟩) fun _ => .pure _) fun found => ?_)
  cases found with
  | none => exact .throw _
  | some secret =>
    dsimp only
    split
    · exact .pure _
    · exact .throw _

/-- Syncing the controller's objects is about objects only. -/
theorem syncController_objects (settings : Setup) (target : Target) (cp : ControlPlane) :
    (syncController settings target cp).Only (·.isAboutObject) := by
  have object (owner : OwnerReference) (mode : SyncMode) (o : Object) :
      (sync owner mode o).Only (·.isAboutObject) := sync_reach rfl rfl fun _ => rfl
  refine .bind (.bind (object ..) fun _ => ?_) fun _ => .bind ?_ fun found => .bind (object ..)
    fun _ => .bind (.bind (object ..) fun _ => .pure _) fun _ => ?_
  · split
    · exact .bind (object ..) fun _ => .bind (object ..) fun _ => .pure _
    · exact .pure _
  · exact .bind (Program.Only.perform rfl) fun _ => .pure _
  · dsimp only
    split
    · exact .bind (object ..) fun _ => .bind (object ..) fun _ => .pure _
    · exact .bind (object ..) fun _ => .pure _

/-- Attempts to store nothing but what is no secret leave all secrets alone. -/
theorem no_secret_of_only {α : Type} {x : Attempt α} {r : Except Failure α}
    (plays : x.run.Plays t r) (only : x.Only (Call.Within (·.address.kind ≠ .secret)))
    {a : Address} (secret : a.kind = .secret) : ∀ e ∈ t, e.storedAt? a = none :=
  fun e he => storedAt_of_within (Program.Plays.only plays only e he) fun o ho heq => by
    rw [heq] at ho
    exact ho secret

/-- The settings of the database are looked up before they are stored, and nothing else is stored in
their place. -/
theorem plays_syncController {r : Except Failure (Bool × Bool)}
    (h : (syncController settings target cp).run.Plays t r) :
    (∃ e, r = .error e ∧ ∀ ev ∈ t, ev.storedAt? (databaseAddress target.namespaceName) = none) ∨
      ∃ t₁ found t₂ result t₃, t = t₁ ++
          (⟨.get (databaseAddress target.namespaceName), .ok found⟩ :: (t₂ ++ t₃)) ∧
        (∀ e ∈ t₁, e.storedAt? (databaseAddress target.namespaceName) = none) ∧
        (target.syncObject (.secret (databaseSecretOf cp target.namespaceName))).Yields t₂ result ∧
        (∀ e ∈ t₃, e.storedAt? (databaseAddress target.namespaceName) = none) ∧
        ∀ existed changed, r = .ok (existed, changed) →
          changed = isDatabaseChanged cp target.namespaceName found := by
  have identity : (target.syncIdentity (Controller.component (controllerConfig settings cp))).Only
      (Call.Within (·.address.kind ≠ .secret)) := by
    refine target.only_syncIdentity _ ?_ ?_ ?_ <;> simp
  rcases Attempt.plays_bind h with ⟨e, failed, rfl⟩ | ⟨t₁, u, t₂, rfl, synced, rest₁⟩
  · exact .inl ⟨e, rfl, no_secret_of_only failed identity rfl⟩
  have before := no_secret_of_only synced identity (a := databaseAddress target.namespaceName) rfl
  rcases Attempt.plays_bind rest₁ with ⟨e, failed, rfl⟩ | ⟨t₃, secret, t₄, rfl, look, rest₂⟩
  · refine .inl ⟨e, rfl, ?_⟩
    rw [Attempt.fails_getSecret.1 failed]
    intro ev hev
    rcases List.mem_append.1 hev with hev | hev
    · exact before ev hev
    · obtain rfl := List.mem_singleton.1 hev
      rfl
  obtain ⟨found, rfl, rfl⟩ := Attempt.yields_getSecret.1 look
  rcases Attempt.plays_bind rest₂ with ⟨e, failed, rfl⟩ | ⟨t₅, result, t₆, rfl, database, rest₃⟩
  · refine .inl ⟨e, rfl, ?_⟩
    have unstored : ∀ ev ∈ t₄, ev.storedAt? (databaseAddress target.namespaceName) = none := by
      obtain rfl | rfl | ⟨old, rfl, -⟩ := fails_sync failed <;> simp [Event.storedAt?, Event.stored?]
    intro ev hev
    rcases List.mem_append.1 hev with hev | hev
    · exact before ev hev
    rcases List.mem_append.1 hev with hev | hev
    · obtain rfl := List.mem_singleton.1 hev
      rfl
    · exact unstored ev hev
  refine .inr ⟨t₁, found, t₅, result, t₆, rfl, before, database, ?_, ?_⟩
  · refine no_secret_of_only rest₃ (.bind (target.only_syncService _ ?_) fun _ => ?_) rfl
    · rintro s - ⟨⟩
    · dsimp only
      split
      · refine .bind (only_sync .apply ?_) fun _ => .bind (only_sync .apply ?_) fun _ => .pure _
        all_goals simp
      · refine .bind (only_sync .apply ?_) fun _ => .pure _
        simp
  · rintro existed changed rfl
    obtain ⟨t₇, u, t₈, rfl, service, rest₄⟩ := Attempt.yields_bind.1 rest₃
    dsimp only at rest₄
    split at rest₄
    · obtain ⟨t₉, u, t₁₀, rfl, claim, rest₅⟩ := Attempt.yields_bind.1 rest₄
      obtain ⟨d, -, heq⟩ := Attempt.yields_bind_pure.1 rest₅
      exact (Prod.mk.inj heq).2
    · obtain ⟨d, -, heq⟩ := Attempt.yields_bind_pure.1 rest₄
      exact (Prod.mk.inj heq).2

/-- After a session is open, the bootstrap only registers the router and looks at addresses. -/
theorem bootstrapController_eq (settings : Setup) (target : Target) (cp : ControlPlane) :
    ∃ conclude : Session → Attempt Outcome, bootstrapController settings target cp = (do
        Attempt.connect (internalUrl target.namespaceName)
        Bootstrap.waitUntilAvailable (internalUrl target.namespaceName) settings.retry
        conclude (← openSession target (internalUrl target.namespaceName) cp.spec.user)) ∧
      ∀ session, (conclude session).Only fun c =>
        c.isQuiet ∨ c.isRegistration (internalUrl target.namespaceName) := by
  refine ⟨_, rfl, fun session => ?_⟩
  have within {α : Type} {x : Attempt α} (h : x.Only (Call.Within fun _ => False)) : x.Only fun c =>
      c.isQuiet ∨ c.isRegistration (internalUrl target.namespaceName) :=
    h.mono fun c h => h.imp_right fun ⟨_, _, h⟩ => h.elim
  refine .bind (within (routerAddress_reach ..)) fun host => ?_
  cases host with
  | none => exact .pure _
  | some host =>
    refine .bind (viaApi_reach (Program.Only.perform (.inr (by simp [Call.isRegistration])))) fun _ => ?_
    split
    · exact .pure _
    · refine .bind (within (only_discoverAddress ..)) fun address => ?_
      cases address with
      | none => exact .pure _
      | some address =>
        refine .tryCatch (.bind (within ?_) fun _ => .pure _) fun _ => .pure _
        exact .bind (Program.Only.perform (.inl rfl)) fun _ => waitUntilAvailable_reach ..

theorem plays_bootstrapController {r : Except Failure Outcome}
    (h : (bootstrapController settings target cp).run.Plays t r) :
    ∃ answer u, t = ⟨.connect (internalUrl target.namespaceName), answer⟩ :: u ∧
      Bootstraps target cp u := by
  obtain ⟨conclude, same, only⟩ := bootstrapController_eq settings target cp
  rw [same] at h
  rcases Attempt.plays_bind h with ⟨e, failed, -⟩ | ⟨t₁, u, t₂, rfl, connected, rest₁⟩
  · exact ⟨.error e, [], Attempt.fails_connect.1 failed, .unavailable [] (by simp)⟩
  obtain rfl := Attempt.yields_connect.1 connected
  refine ⟨.ok u, t₂, rfl, ?_⟩
  rcases Attempt.plays_bind rest₁ with ⟨e, failed, -⟩ | ⟨t₃, u, t₄, rfl, available, rest₂⟩
  · exact .unavailable t₂ (quiet_of_only failed (waitUntilAvailable_reach ..))
  have before := quiet_of_only available (waitUntilAvailable_reach ..)
  rcases Attempt.plays_bind rest₂ with ⟨e, failed, -⟩ | ⟨t₅, session, t₆, rfl, opened, rest₃⟩
  · have failed : Bootstraps target cp _ := .available t₃ t₄ [] (.error e) before failed (by simp)
    rwa [List.append_nil] at failed
  exact .available t₃ t₅ t₆ (.ok session) before opened (Program.Plays.only rest₃ (only session))

theorem plays_driveController {r : Except Failure Outcome}
    (h : (driveController settings target cp).run.Plays t r) : Brings settings cp target t := by
  rcases Attempt.plays_bind h with ⟨e, failed, -⟩ | ⟨u₁, ⟨existed, changed⟩, u₂, rfl, synced, rest⟩
  · exact .unsynced t e failed
  cases existed with
  | false =>
    obtain ⟨rfl, -⟩ := Program.plays_pure.1 rest
    rw [List.append_nil]
    exact .fresh u₁ changed synced
  | true =>
    cases changed with
    | false =>
      obtain ⟨answer, u, rfl, bootstrapped⟩ := plays_bootstrapController rest
      exact .reached u₁ u false answer synced bootstrapped
    | true =>
      rcases Attempt.plays_bind rest with ⟨e, failed, -⟩ | ⟨u₃, _, u₄, rfl, restarted, last⟩
      · rw [Attempt.fails_restart.1 failed]
        exact .stuck u₁ e synced
      · obtain rfl := Attempt.yields_restart.1 restarted
        obtain ⟨answer, u, rfl, bootstrapped⟩ := plays_bootstrapController last
        exact .reached u₁ u true answer synced bootstrapped

/-- Without a target nothing is called. With one come lookups of the secret that images are pulled with, and
the controller is driven if that secret is as it should be. -/
theorem plays_attemptController {r : Except Failure Outcome}
    (h : (attemptController settings cp).run.Plays t r) :
    (t = [] ∧ ∃ e, r = .error e) ∨ ∃ target, Target.of cp = .ok target ∧ ∃ t₁ t₂, t = t₁ ++ t₂ ∧
      (∀ e ∈ t₁, ∃ a, e.call = .get a) ∧
      ((t₂ = [] ∧ ∃ e, r = .error e) ∨ (driveController settings target cp).run.Plays t₂ r) := by
  rcases Attempt.plays_bind h with ⟨e, failed, rfl⟩ | ⟨t₁, target, t₂, rfl, found, rest⟩
  · exact .inl ⟨(Attempt.fails_ofExcept.1 failed).1, e, rfl⟩
  obtain ⟨rfl, htarget⟩ := Attempt.yields_ofExcept.1 found
  refine .inr ⟨target, htarget, ?_⟩
  rw [List.nil_append]
  dsimp only at rest
  split at rest
  · rcases Attempt.plays_bind rest with ⟨e, failed, rfl⟩ | ⟨t₃, _, t₄, rfl, verified, rest⟩
    · exact ⟨t₂, [], by simp, lookups_of_verifyPullSecret failed, .inl ⟨rfl, e, rfl⟩⟩
    · exact ⟨t₃, t₄, rfl, lookups_of_verifyPullSecret verified, .inr rest⟩
  · exact ⟨[], t₂, rfl, by simp, .inr rest⟩

/-- The controller's part does nothing without a target. With one it looks for the secret that images
are pulled with, and then brings its objects about. -/
theorem plays_controller {o : Outcome} (h : (controller settings cp).Plays t o) :
    t = [] ∨ ∃ target, Target.of cp = .ok target ∧ ∃ t₁ t₂, t = t₁ ++ t₂ ∧
      (∀ e ∈ t₁, ∃ a, e.call = .get a) ∧ (t₂ = [] ∨ Brings settings cp target t₂) := by
  obtain ⟨r, h⟩ : ∃ r, (attemptController settings cp).run.Plays t r := by
    rcases plays_settle.1 h with h | ⟨e, h, -⟩ <;> exact ⟨_, h⟩
  refine (plays_attemptController h).imp And.left fun ⟨target, htarget, t₁, t₂, split, lookups, drives⟩ => ?_
  exact ⟨target, htarget, t₁, t₂, split, lookups, drives.imp And.left plays_driveController⟩

/-- The deployment is the last object of the controller's, and the only one of its kind. -/
theorem deployment_of_syncController {existed changed : Bool}
    (h : (syncController settings target cp).Yields t (existed, changed)) :
    ∃ t₁ t₂ d, t = t₁ ++ t₂ ∧ (∀ e ∈ t₁, e.call.IsApartFrom .deployment) ∧
      (target.syncObject (.deployment ((Controller.component (controllerConfig settings cp)).deployment
        target.namespaceName))).Yields t₂ d ∧ d.existed = existed := by
  have object {o : Object} {u : List Event} {d : SyncResult} (other : o.address.kind ≠ .deployment)
      (synced : (target.syncObject o).Yields u d) : ∀ e ∈ u, e.call.IsApartFrom .deployment := by
    have owned : (o.ownedBy target.owner).address.kind ≠ .deployment := by
      rwa [Object.address_ownedBy]
    exact Program.Plays.only synced (sync_reach other owned fun _ => owned)
  have apart {u v : List Event} (hu : ∀ e ∈ u, e.call.IsApartFrom .deployment)
      (hv : ∀ e ∈ v, e.call.IsApartFrom .deployment) : ∀ e ∈ u ++ v, e.call.IsApartFrom .deployment :=
    fun e he => (List.mem_append.1 he).elim (hu e) (hv e)
  have identity {c : Component} {u : List Event} {a : Unit} (synced : (target.syncIdentity c).Yields u a) :
      ∀ e ∈ u, e.call.IsApartFrom .deployment := by
    obtain ⟨u₁, _, u₂, rfl, account, rest⟩ := Attempt.yields_bind.1 synced
    refine apart (object (by simp) account) ?_
    split at rest
    · obtain ⟨u₃, _, u₄, rfl, role, rest⟩ := Attempt.yields_bind.1 rest
      obtain ⟨_, binding, -⟩ := Attempt.yields_bind_pure.1 rest
      exact apart (object (by simp) role) (object (by simp) binding)
    · obtain ⟨rfl, -⟩ := Attempt.yields_pure.1 rest
      simp
  have services {c : Component} {u : List Event} {a : Unit} (synced : (target.syncService c).Yields u a) :
      ∀ e ∈ u, e.call.IsApartFrom .deployment := by
    unfold Target.syncService at synced
    split at synced
    · obtain ⟨_, service, -⟩ := Attempt.yields_bind_pure.1 synced
      exact object (by simp [Object.address, Object.kind]) service
    · obtain ⟨rfl, -⟩ := Attempt.yields_pure.1 synced
      simp
  obtain ⟨t₁, u, t₂, rfl, first, rest₁⟩ := Attempt.yields_bind.1 h
  obtain ⟨t₃, found, t₄, rfl, look, rest₂⟩ := Attempt.yields_bind.1 rest₁
  obtain ⟨t₅, r, t₆, rfl, database, rest₃⟩ := Attempt.yields_bind.1 rest₂
  obtain ⟨t₇, u, t₈, rfl, service, rest₄⟩ := Attempt.yields_bind.1 rest₃
  have early : ∀ e ∈ t₁ ++ (t₃ ++ (t₅ ++ t₇)), e.call.IsApartFrom .deployment := by
    refine apart (identity first) (apart ?_ (apart (object (by simp) database) (services service)))
    obtain ⟨o, rfl, -⟩ := Attempt.yields_getSecret.1 look
    simp [Call.IsApartFrom]
  dsimp only at rest₄
  split at rest₄
  · obtain ⟨t₉, c, t₁₀, rfl, claim, rest₅⟩ := Attempt.yields_bind.1 rest₄
    obtain ⟨d, deployment, heq⟩ := Attempt.yields_bind_pure.1 rest₅
    refine ⟨t₁ ++ (t₃ ++ (t₅ ++ t₇)) ++ t₉, t₁₀, d, by simp, apart early (object (by simp) claim),
      deployment, (Prod.mk.inj heq).1.symm⟩
  · obtain ⟨d, deployment, heq⟩ := Attempt.yields_bind_pure.1 rest₄
    exact ⟨t₁ ++ (t₃ ++ (t₅ ++ t₇)), t₈, d, by simp, early, deployment, (Prod.mk.inj heq).1.symm⟩

/-- Whether the controller existed is what a lookup found, and it is replaced only after that. -/
theorem lookup_of_syncController {existed changed : Bool}
    (h : (syncController settings target cp).Yields t (existed, changed)) :
    ∃ t₁ found t₂, t = t₁ ++ ⟨.get (controllerAddress target.namespaceName), .ok found⟩ :: t₂ ∧
      found.isSome = existed ∧
      ∀ e ∈ t₁, e.storedAt? (controllerAddress target.namespaceName) = none := by
  obtain ⟨t₁, t₂, d, rfl, apart, synced, existed⟩ := deployment_of_syncController h
  have unstored (e : Event) (he : e ∈ t₁) := storedAt_of_apart (apart e he)
    (a := controllerAddress target.namespaceName) rfl
  obtain ⟨rfl, rfl⟩ | ⟨old, rfl, -, rfl⟩ | ⟨old, -, ⟨⟩, -⟩ := yields_sync synced
  · exact ⟨t₁, none, _, rfl, existed, unstored⟩
  · exact ⟨t₁, some old, _, rfl, existed, unstored⟩

/-- A pass of the controller's part either never comes to open a session, or it opens one after it has
found the controller deployed. -/
theorem plays_controller_session {o : Outcome} {ns : String} (h : (controller settings cp).Plays t o)
    (home : cp.metadata.namespaceName = some ns) :
    (∀ e ∈ t, e.call.IsBeside ns) ∨
      ∃ target before session after r, target.namespaceName = ns ∧ t = before ++ (session ++ after) ∧
        (openSession target (internalUrl ns) cp.spec.user).run.Plays session r ∧
        (∀ e ∈ before ++ after, e.call.IsBeside ns) ∧
        ∃ t₁ old t₂, before = t₁ ++ ⟨.get (controllerAddress ns), .ok (some old)⟩ :: t₂ ∧
          ∀ e ∈ t₁, e.storedAt? (controllerAddress ns) = none := by
  rcases plays_controller h with rfl | ⟨target, htarget, t₀, t, rfl, lookups, brings⟩
  · exact .inl (by simp)
  have hns := (Target.namespaceName_of htarget).1
  obtain rfl : ns = target.namespaceName := Option.some.inj (home.symm.trans hns)
  have look : ∀ e ∈ t₀, e.call.IsBeside target.namespaceName := by
    intro e he
    obtain ⟨a, ha⟩ := lookups e he
    exact .inl (.inl (by rw [ha]; rfl))
  have quiet {e : Event} (h : e.call.isQuiet) : e.call.IsBeside target.namespaceName :=
    .inl (.inl h)
  have objects {u : List Event} {r : Except Failure (Bool × Bool)}
      (synced : (syncController settings target cp).run.Plays u r) :
      ∀ e ∈ u, e.call.IsBeside target.namespaceName := fun e he =>
    .inl ((Program.Plays.only synced (syncController_reach settings hns) e he).imp_right
      fun ⟨o, stores, part⟩ => ⟨o, stores, part.2⟩)
  have all {u v : List Event} (hu : ∀ e ∈ u, e.call.IsBeside target.namespaceName)
      (hv : ∀ e ∈ v, e.call.IsBeside target.namespaceName) :
      ∀ e ∈ u ++ v, e.call.IsBeside target.namespaceName := fun e he =>
    (List.mem_append.1 he).elim (hu e) (hv e)
  rcases brings with rfl | brings
  · exact .inl (all look (by simp))
  cases brings with
  | unsynced _ e synced => exact .inl (all look (objects synced))
  | fresh _ changed synced => exact .inl (all look (objects synced))
  | stuck _ e synced =>
    exact .inl (all look (all (objects synced) (by simp [Call.IsBeside])))
  | reached t₁ u changed answer synced bootstrapped =>
    have restart : ∀ e ∈ (if changed then [⟨.restart target.namespaceName Controller.name, .ok ()⟩]
        else [] : List Event), e.call.IsBeside target.namespaceName := by
      cases changed <;> simp [Call.IsBeside]
    generalize (if changed then [⟨.restart target.namespaceName Controller.name, .ok ()⟩] else [] :
      List Event) = pods at h restart ⊢
    have connect : ∀ e ∈ ([⟨.connect (internalUrl target.namespaceName), answer⟩] : List Event),
        e.call.IsBeside target.namespaceName := by
      simp [Call.IsBeside, Call.Within, Call.isQuiet]
    cases bootstrapped with
    | unavailable _ allQuiet =>
      have := all look (all (objects synced) (all restart
        (all connect fun e he => quiet (allQuiet e he))))
      exact .inl (by simpa using this)
    | available u₁ u₂ u₃ session before opened after =>
      have early := all look (all (objects synced) (all restart
        (all connect fun e he => quiet (before e he))))
      have late : ∀ e ∈ u₃, e.call.IsBeside target.namespaceName := fun e he =>
        (after e he).elim quiet fun h => .inr (.inr h)
      obtain ⟨v₁, found, v₂, rfl, there, unstored⟩ := lookup_of_syncController synced
      obtain ⟨old, rfl⟩ := Option.isSome_iff_exists.1 there
      refine .inr ⟨target, _, u₂, u₃, session, rfl, ?_, opened, all early late, t₀ ++ v₁, old,
        v₂ ++ (pods ++ (⟨.connect (internalUrl target.namespaceName), answer⟩ :: u₁)), ?_, ?_⟩
      · simp
      · simp
      · intro e he
        rcases List.mem_append.1 he with he | he
        · obtain ⟨a, ha⟩ := lookups e he
          obtain ⟨c, r⟩ := e
          obtain rfl := ha
          rfl
        · exact unstored e he

end Reconcile

end EdgePlane
