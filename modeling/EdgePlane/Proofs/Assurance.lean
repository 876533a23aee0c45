import EdgePlane.Proofs.Convergence
import EdgePlane.Proofs.Conversation
import EdgePlane.Proofs.Progress

/-!
# What a clean pass has been assured of

If all components come out clean, then more is known than what was stored: the interface inside the cluster
served, the registration of the user was answered in a way that let the pass go on, the secret that images
are pulled with was there, and a controller behind a load balancer served outside. An interface that serves
goes on serving, and one that cannot register goes on so. So the world after a clean pass lacks nothing that
another pass looks for.
-/

namespace EdgePlane

open Kubernetes Management Simulation

namespace Simulation

/-- Whether every object of a cluster is filed at its own address. -/
def Cluster.IsFiled (c : Cluster) : Prop := ∀ a o, c.object? a = some o → o.address = a

theorem Cluster.isFiled_empty : ({} : Cluster).IsFiled := fun _ _ found => by cases found

theorem Cluster.IsFiled.insert {c : Cluster} (h : c.IsFiled) (o : Object) : (c.insert o).IsFiled := by
  intro a o' found
  rw [Cluster.insert, Cluster.object?, Dict.get?_insert] at found
  split at found
  · rename_i here
    rw [← Option.some.inj found, here]
  · exact h a o' found

namespace ApiServer

/-- Whether an interface accepts connections and tells its status. -/
structure Accepts (s : ApiServer) : Prop where
  connects : s.refusals = some 0
  reports : s.statusBroken = false

/-- What of an interface lasts, whoever talks to it. -/
structure Lasts (s s' : ApiServer) : Prop where
  accepts : s.Accepts → s'.Accepts
  signUpBroken : s'.signUpBroken = s.signUpBroken
  tokens : ∀ token, (s.tokens.get? token).isSome → (s'.tokens.get? token).isSome

variable (s : ApiServer)

theorem Lasts.refl : s.Lasts s := ⟨id, rfl, fun _ => id⟩

theorem Lasts.trans {s s' s'' : ApiServer} (h : s.Lasts s') (h' : s'.Lasts s'') : s.Lasts s'' :=
  ⟨h'.accepts ∘ h.accepts, h'.signUpBroken.trans h.signUpBroken,
    fun token => h'.tokens token ∘ h.tokens token⟩

/-- Whatever else changes, an interface lasts if its ways of answering do. -/
theorem Lasts.of_same {s s' : ApiServer} (refusals : s'.refusals = s.refusals)
    (statusBroken : s'.statusBroken = s.statusBroken) (signUpBroken : s'.signUpBroken = s.signUpBroken)
    (tokens : ∀ token, (s.tokens.get? token).isSome → (s'.tokens.get? token).isSome) : s.Lasts s' :=
  ⟨fun h => ⟨refusals.trans h.connects, statusBroken.trans h.reports⟩, signUpBroken, tokens⟩

theorem lasts_status (url : String) : s.Lasts (s.status url).2 := by
  unfold status
  dsimp only
  split
  · exact .of_same rfl rfl rfl fun _ => id
  · exact .of_same rfl rfl rfl fun _ => id
  · rename_i refused
    refine ⟨fun h => ?_, rfl, fun _ => id⟩
    cases refused.symm.trans h.connects

theorem lasts_signUp (url : String) (request : SignUp) : s.Lasts (s.signUp url request).2 := by
  unfold signUp
  dsimp only
  split
  · exact .of_same rfl rfl rfl fun _ => id
  · split <;> exact .of_same rfl rfl rfl fun _ => id

theorem lasts_logIn (request : LogIn) : s.Lasts (s.logIn request).2 := by
  unfold logIn
  dsimp only
  split
  · refine .of_same rfl rfl rfl fun token held => ?_
    rw [Dict.get?_insert]
    split
    · rfl
    · exact held
  · exact .of_same rfl rfl rfl fun _ => id

theorem lasts_changePassword (token : String) (request : PasswordChange) :
    s.Lasts (s.changePassword token request).2 := by
  unfold changePassword
  split
  · exact .refl s
  · split
    · exact .of_same rfl rfl rfl fun _ => id
    · exact .refl s

theorem lasts_putRouter (token : String) (router : DefaultRouter) :
    s.Lasts (s.putRouter token router).2 := by
  unfold putRouter
  split
  · exact .refl s
  · exact .of_same rfl rfl rfl fun _ => id

/-- An interface that has told its status accepts connections. -/
theorem accepts_of_status {s : ApiServer} {url : String} {report : ControllerStatus}
    (h : (s.status url).1 = .ok report) : s.Accepts := by
  unfold status at h
  dsimp only at h
  split at h
  · cases h
  · rename_i connects
    refine ⟨connects, Bool.eq_false_iff.2 fun broken => ?_⟩
    simp [ApiServer.report, broken] at h
  · cases h

end ApiServer

namespace World

variable {w w' : World} {t : List Event}

/-- Whoever is called, each interface lasts. -/
theorem lasts_answer (url : String) (c : Call) (w : World) :
    (w.api url).Lasts ((answer c w).2.api url) := by
  have ask {α : Type} (c : Call) (u : String) (f : ApiServer → Except ApiError α × ApiServer)
      (lasts : ∀ s : ApiServer, s.Lasts (f s).2) : (w.api url).Lasts ((w.askApi c u f).2.api url) := by
    obtain ⟨-, -, ⟨-, -, same⟩ | ⟨-, now⟩⟩ := askApi_cases w c u f
    · rw [same]
      exact .refl _
    · rw [now]
      split
      · rename_i here
        subst here
        exact lasts _
      · exact .refl _
  have quiet (h : c.isTalk = false) : (w.api url).Lasts ((answer c w).2.api url) := by
    rw [(untouched_answer h).1]
    exact .refl _
  cases c with
  | status u => exact ask _ _ _ (·.lasts_status u)
  | signUp u request => exact ask _ _ _ (·.lasts_signUp u request)
  | logIn _ request => exact ask _ _ _ (·.lasts_logIn request)
  | changePassword _ token request => exact ask _ _ _ (·.lasts_changePassword token request)
  | putRouter _ token router => exact ask _ _ _ (·.lasts_putRouter token router)
  | restart ns name =>
    have same : (answer (.restart ns name) w).2.apis = w.apis :=
      (askCluster_cases w (.restart ns name) (·.restart ns name)).1
    rw [api_of_apis same]
    exact .refl _
  | _ => exact quiet rfl

namespace Follows

theorem lasts (h : w.Follows t w') (url : String) : (w.api url).Lasts (w'.api url) :=
  h.keeps (I := fun v => (w.api url).Lasts (v.api url))
    (fun d v before => before.trans (lasts_answer url (.sleep d) v))
    (fun e _ v before => before.trans (lasts_answer url e.call v)) (.refl _)

theorem reliable (h : w.Follows t w') (faults : w.faults = []) : w'.faults = [] :=
  h.keeps (fun d => faults_answer (.sleep d)) (fun e _ => faults_answer e.call) faults

/-- Each event of a trace that is followed was answered by some world on the way. -/
theorem answered (h : w.Follows t w') {e : Event} (he : e ∈ t) :
    ∃ v t₁ t₂, w.Follows t₁ v ∧ e.reply = (answer e.call v).1 ∧ (answer e.call v).2.Follows t₂ w' := by
  induction h with
  | done w => cases he
  | @call w w' t c awake rest ih =>
    rcases List.mem_cons.1 he with rfl | he
    · exact ⟨w, [], t, .done w, rfl, rest⟩
    · obtain ⟨v, t₁, t₂, before, reply, after⟩ := ih he
      exact ⟨v, _, t₂, .call c awake before, reply, after⟩
  | sleep d _ ih =>
    obtain ⟨v, t₁, t₂, before, reply, after⟩ := ih he
    exact ⟨v, t₁, t₂, .sleep d before, reply, after⟩

/-- An interface that has told its status accepts connections from then on. -/
theorem accepts (h : w.Follows t w') {url : String} {report : ControllerStatus}
    (told : ⟨.status url, .ok report⟩ ∈ t) : (w'.api url).Accepts := by
  obtain ⟨v, -, t₂, -, reply, after⟩ := h.answered told
  refine (after.lasts url).accepts ((lasts_answer url (.status url) v).accepts ?_)
  obtain ⟨-, -, ⟨-, ⟨e, failed⟩, -⟩ | ⟨made, -⟩⟩ := askApi_cases v (.status url) url (·.status url)
  · cases reply.trans failed
  · exact ApiServer.accepts_of_status (reply.trans made).symm

/-- An interface that cannot register in the end has answered no registration in any other way. -/
theorem signUp_of_broken (h : w.Follows t w') (faults : w.faults = []) {url : String} {request : SignUp}
    {r : Except ApiError Unit} (asked : ⟨.signUp url request, r⟩ ∈ t)
    (broken : (w'.api url).signUpBroken = true) :
    r = .error (ApiServer.serverError url "/user/signup") := by
  obtain ⟨v, t₁, t₂, before, reply, after⟩ := h.answered asked
  have made := (askApi_of_reliable (before.reliable faults) (.signUp url request) url
    (·.signUp url request)).1
  rw [(after.lasts url).signUpBroken, (lasts_answer url (.signUp url request) v).signUpBroken] at broken
  refine (reply.trans made).trans ?_
  simp [ApiServer.signUp, broken]

end Follows

end World

end Simulation

namespace Reconcile

open Bootstrap

variable {settings : Setup} {cp : ControlPlane} {target : Target} {ns name url : String}
  {t u : List Event}

/-- Whoever waited for an interface without failing has been told a status by it. -/
theorem yields_waitUntilAvailable {limit : RetryLimit} {a : Unit}
    (h : (waitUntilAvailable url limit).Yields t a) :
    limit.attempts ≠ 0 ∧ ∃ status, ⟨.status url, .ok status⟩ ∈ t := by
  have tries : limit.attempts ≠ 0 := fun none => by
    unfold waitUntilAvailable at h
    rw [none] at h
    exact (Attempt.yields_throw.1 h).elim
  refine ⟨tries, ?_⟩
  rcases plays_poll h tries with ⟨status, polls, -⟩ | ⟨e, failure, -, ⟨⟩⟩
  obtain ⟨refusals, _, -, -, -⟩ := polls
  exact ⟨status, by simp⟩

theorem yields_verifyPullSecret {a : Unit} (h : (verifyPullSecret ns name).Yields t a) :
    ∃ found secret, t = [⟨.get ⟨.secret, ns, name⟩, .ok found⟩] ∧
      found.bind (·.secret?) = some secret ∧ secret.type = some pullSecretType := by
  obtain ⟨t₁, secret, t₂, rfl, look, rest⟩ := Attempt.yields_bind.1 h
  obtain ⟨found, rfl, rfl⟩ := Attempt.yields_getSecret.1 look
  split at rest
  · exact (Attempt.yields_throw.1 rest).elim
  · rename_i secret isSecret
    split at rest
    · rename_i right
      obtain ⟨rfl, -⟩ := Attempt.yields_pure.1 rest
      exact ⟨found, secret, rfl, isSecret, right⟩
    · exact (Attempt.yields_throw.1 rest).elim

/-- The ways on from a registration that failed: there was a user already, or the error read as a wrong
password and the declared credentials were stored. -/
def WentOn (target : Target) (user : ControlPlane.User) (t : List Event) (cause : ApiError) : Prop :=
  cause.isAccountExists ∨
    cause.isInvalidCredentials ∧ (credentialsOf target user).ownedBy target.owner ∈ stored t

theorem registers_of_openSession {user : ControlPlane.User} {session : Session}
    (h : (openSession target url user).Yields t session) :
    ∃ r, ⟨.signUp url (signUpOf user), r⟩ ∈ t ∧ ∀ cause, r = .error cause → WentOn target user t cause := by
  rcases plays_openSession h with ⟨s, ensured, -⟩ | ⟨e, -, ⟨⟩, -⟩ | ⟨t₁, e, t₂, rfl, failed, invalid, rotates⟩
  · obtain ⟨_ | answer, opened, enters⟩ := plays_ensureUser ensured
    · cases opened
    cases enters with
    | loggedIn r _ registered => exact ⟨r, by simp, fun cause same => .inl (registered cause same)⟩
  · have saved : (credentialsOf target user).ownedBy target.owner ∈ stored (t₁ ++ t₂) := by
      cases rotates with
      | saved found previous t u v s r _ held rotated synced pods =>
        rw [stored_append, stored_saved found rotated synced pods]
        simp
    obtain ⟨cause | _, refused, enters⟩ := plays_ensureUser failed
    · obtain rfl := Except.error.inj refused
      cases enters with
      | unregistered _ _ =>
        refine ⟨.error cause, by simp, fun cause' same => ?_⟩
        obtain rfl := Except.error.inj same
        exact .inr ⟨invalid, saved⟩
      | loggedIn r _ registered => exact ⟨r, by simp, fun cause same => .inl (registered cause same)⟩
    · cases refused

/-- Whether images are pulled with no secret, or with one that was found and has the right type. -/
def Pulls (cp : ControlPlane) (ns : String) (t : List Event) : Prop :=
  cp.spec.images.pullSecret = "" ∨ ∃ found secret,
    ⟨.get ⟨.secret, ns, cp.spec.images.pullSecret⟩, .ok found⟩ ∈ t ∧
      found.bind (·.secret?) = some secret ∧ secret.type = some pullSecretType

theorem Pulls.append (h : Pulls cp ns t) (u : List Event) : Pulls cp ns (t ++ u) :=
  h.imp_right fun ⟨found, secret, look, right⟩ => ⟨found, secret, List.mem_append_left u look, right⟩

/-- What the controller's part has been assured of when its outcome is clean. -/
structure Assured (settings : Setup) (cp : ControlPlane) (target : Target) (t : List Event) : Prop where
  tries : settings.retry.attempts ≠ 0
  pulls : Pulls cp target.namespaceName t
  serves : ∃ status, ⟨.status (internalUrl target.namespaceName), .ok status⟩ ∈ t
  registers : ∃ r, ⟨.signUp (internalUrl target.namespaceName) (signUpOf cp.spec.user), r⟩ ∈ t ∧
    ∀ cause, r = .error cause → WentOn target cp.spec.user t cause
  servesOutside : cp.spec.services.controller.isLoadBalancer → ∃ found address status,
    ⟨.get ⟨.service, target.namespaceName, Controller.name⟩, .ok found⟩ ∈ t ∧
      externalAddress? found = some address ∧
      ⟨.status (Net.apiBaseUrl address Controller.apiPort), .ok status⟩ ∈ t

theorem WentOn.mono {user : ControlPlane.User} {cause : ApiError} (h : WentOn target user t cause)
    (sub : stored t ⊆ stored u) : WentOn target user u cause :=
  h.imp_right fun ⟨invalid, saved⟩ => ⟨invalid, sub saved⟩

/-- A clean check from outside was told a status there. -/
theorem servesOutside_of_check {o : Outcome} (clean : o.isClean)
    (h : (checkOutside settings cp ns).Yields t o) (balanced : cp.spec.services.controller.isLoadBalancer) :
    ∃ found address status, ⟨.get ⟨.service, ns, Controller.name⟩, .ok found⟩ ∈ t ∧
      externalAddress? found = some address ∧
      ⟨.status (Net.apiBaseUrl address Controller.apiPort), .ok status⟩ ∈ t := by
  rw [checkOutside, if_neg (by simp [balanced])] at h
  obtain ⟨t₁, address, t₂, rfl, discovered, rest⟩ := Attempt.yields_bind.1 h
  obtain ⟨found, rfl, known⟩ := Attempt.yields_discoverAddress.1 discovered
  cases address with
  | none =>
    obtain ⟨-, rfl⟩ := Attempt.yields_pure.1 rest
    simp [not_clean_waiting] at clean
  | some address =>
    rcases Attempt.yields_tryCatch.1 rest with yields | ⟨u, e, v, -, -, waits⟩
    · obtain ⟨_, probed, -⟩ := Attempt.yields_bind_pure.1 yields
      obtain ⟨u, _, v, rfl, -, available⟩ := Attempt.yields_bind.1 probed
      obtain ⟨-, status, told⟩ := yields_waitUntilAvailable available
      exact ⟨found, address, status, by simp, known.symm, by simp [told]⟩
    · obtain ⟨-, rfl⟩ := Attempt.yields_pure.1 waits
      simp [not_clean_waiting] at clean

/-- What was done before the bootstrap is assured of the secret that images are pulled with at most. -/
theorem assured_of_bootstrap {o : Outcome} (clean : o.isClean)
    (h : (bootstrapController settings target cp).Yields t o) (before : List Event)
    (pulls : Pulls cp target.namespaceName before) : Assured settings cp target (before ++ t) := by
  obtain ⟨t₁, _, t₂, rfl, -, rest₁⟩ := Attempt.yields_bind.1 h
  obtain ⟨t₃, _, t₄, rfl, available, rest₂⟩ := Attempt.yields_bind.1 rest₁
  obtain ⟨t₅, session, t₆, rfl, opened, rest₃⟩ := Attempt.yields_bind.1 rest₂
  obtain ⟨t₇, host, t₈, rfl, -, rest₄⟩ := Attempt.yields_bind.1 rest₃
  obtain ⟨tries, status, told⟩ := yields_waitUntilAvailable available
  obtain ⟨r, asked, wentOn⟩ := registers_of_openSession opened
  have within : stored t₅ ⊆ stored (before ++ (t₁ ++ (t₃ ++ (t₅ ++ (t₇ ++ t₈))))) := by
    intro o ho
    simp [ho]
  refine ⟨tries, pulls.append _, ⟨status, by simp [told]⟩,
    ⟨r, by simp [asked], fun cause same => (wentOn cause same).mono within⟩, fun balanced => ?_⟩
  cases host with
  | none =>
    obtain ⟨-, rfl⟩ := Attempt.yields_pure.1 rest₄
    simp [not_clean_waiting] at clean
  | some host =>
    obtain ⟨t₉, _, t₁₀, rfl, -, rest₅⟩ := Attempt.yields_bind.1 rest₄
    obtain ⟨found, address, status, look, known, told⟩ := servesOutside_of_check clean rest₅ balanced
    exact ⟨found, address, status, by simp [look], known, by simp [told]⟩

theorem assured_of_drive {o : Outcome} (clean : o.isClean)
    (h : (driveController settings target cp).Yields t o) (before : List Event)
    (pulls : Pulls cp target.namespaceName before) : Assured settings cp target (before ++ t) := by
  obtain ⟨t₁, ⟨existed, changed⟩, t₂, rfl, -, rest₁⟩ := Attempt.yields_bind.1 h
  cases existed with
  | false =>
    obtain ⟨-, rfl⟩ := Attempt.yields_pure.1 rest₁
    simp [not_clean_waiting] at clean
  | true =>
    rw [← List.append_assoc]
    cases changed with
    | false => exact assured_of_bootstrap clean rest₁ _ (pulls.append t₁)
    | true =>
      obtain ⟨u₁, _, u₂, rfl, -, rest₂⟩ := Attempt.yields_bind.1 rest₁
      rw [← List.append_assoc]
      exact assured_of_bootstrap clean rest₂ _ ((pulls.append t₁).append u₁)

theorem assured_of_clean {o : Outcome} (plays : (controller settings cp).Plays t o) (clean : o.isClean) :
    ∃ target, Target.of cp = .ok target ∧ Assured settings cp target t := by
  obtain ⟨_, target, u, rfl, found, rest₁⟩ := Attempt.yields_bind.1 (yields_of_clean plays clean)
  obtain ⟨rfl, htarget⟩ := Attempt.yields_ofExcept.1 found
  refine ⟨target, htarget, ?_⟩
  rw [List.nil_append]
  dsimp only at rest₁
  split at rest₁
  · obtain ⟨t₁, _, t₂, rfl, verified, rest₂⟩ := Attempt.yields_bind.1 rest₁
    obtain ⟨found, secret, rfl, right⟩ := yields_verifyPullSecret verified
    exact assured_of_drive clean rest₂ _ (.inr ⟨found, secret, by simp, right⟩)
  · rename_i empty
    exact assured_of_drive clean rest₁ [] (.inl (by simpa using empty))

/-- A world that lacks nothing another pass looks for: the declared objects stand, with certificates for the
address that is known, and the interface serves, knows the declared user and has the router registered. -/
structure Accomplished (settings : Setup) (cp : ControlPlane) (target : Target) (host : String)
    (alternative : AlternativeName) (ca : KeyedCertificate) (w : World) : Prop where
  tries : settings.retry.attempts ≠ 0
  reliable : w.faults = []
  declared : ∀ o ∈ declaredObjects settings cp target.namespaceName, ∃ old,
    w.cluster.object? o.address = some ((o.ownedBy target.owner).keepingStatus old)
  known : knownAddress? cp (w.cluster.object? ⟨.service, target.namespaceName, Router.name⟩) = some host
  named : KeyedCertificate.alternativeName host = .ok alternative
  authority : ∃ secret, w.cluster.object? ⟨.secret, target.namespaceName, Router.authoritySecretName⟩ =
    some (.secret secret) ∧ KeyedCertificate.ofSecret settings.pem secret = .ok ca
  leaves : ∀ name ∈ Router.leafSecretNames, ∃ fresh,
    w.cluster.object? ⟨.secret, target.namespaceName, name⟩ =
      some ((leafSecret target.namespaceName ca host alternative name fresh).ownedBy target.owner)
  credentials : (w.cluster.object? (credentialsAddress target.namespaceName)).isSome
  pulls : cp.spec.images.pullSecret = "" ∨ ∃ secret, (w.cluster.object?
    ⟨.secret, target.namespaceName, cp.spec.images.pullSecret⟩).bind (·.secret?) = some secret ∧
      secret.type = some pullSecretType
  accepts : (w.api (internalUrl target.namespaceName)).Accepts
  user : (w.api (internalUrl target.namespaceName)).users.get? cp.spec.user.email =
    some cp.spec.user.password.decode
  router : (w.api (internalUrl target.namespaceName)).router = some (registration cp host)
  /-- Where the registration is broken there is a way on. -/
  registers : (w.api (internalUrl target.namespaceName)).signUpBroken = true →
    let e := ApiServer.serverError (internalUrl target.namespaceName) "/user/signup"
    e.isAccountExists ∨ e.isInvalidCredentials ∧
      w.cluster.object? (credentialsAddress target.namespaceName) =
        some ((credentialsOf target cp.spec.user).ownedBy target.owner)
  acceptsOutside : cp.spec.services.controller.isLoadBalancer → ∃ address,
    externalAddress? (w.cluster.object? ⟨.service, target.namespaceName, Controller.name⟩) = some address ∧
      (w.api (Net.apiBaseUrl address Controller.apiPort)).Accepts

theorem not_secret_of_component {c : Component} {o : Object} (h : o ∈ c.objects ns) : o.kind ≠ .secret := by
  simp only [Component.objects, Component.identity, Component.services, List.mem_append,
    List.mem_singleton, Option.mem_toList, Option.map_eq_some_iff] at h
  rcases h with ((rfl | h) | ⟨_, -, rfl⟩) | rfl
  · simp [Object.kind]
  · split at h
    · cases h
    · simp only [List.mem_cons, List.not_mem_nil, or_false] at h
      rcases h with rfl | rfl <;> simp [Object.kind]
  · simp [Object.kind]
  · simp [Object.kind]

/-- The only secret among the declared objects is that with the settings of the database. -/
theorem name_of_declared_secret {o : Object} (h : o ∈ declaredObjects settings cp ns)
    (secret : o.kind = .secret) : o.name = Controller.databaseSecretName := by
  simp only [declaredObjects, List.mem_append, List.mem_singleton] at h
  rcases h with (h | (h | rfl) | h) | h
  · exact absurd secret (not_secret_of_component h)
  · exact absurd secret (not_secret_of_component h)
  · rfl
  · unfold claims at h
    split at h
    · cases h
    · obtain rfl := List.mem_singleton.1 h
      cases secret
  · exact absurd secret (not_secret_of_component h)

/-- What no part stores is found as it was to begin with, and stays so. -/
theorem found_of_unstored {m : List Event} {a : Address} {old found : Option Object}
    (unstored : m.filterMap (·.storedAt? a) = []) (admitted : (Part.objectAt a).Admits old m)
    (look : ⟨.get a, .ok found⟩ ∈ m) : found = old := by
  have ignored : ∀ e ∈ m, ∀ now, now = old → (Part.objectAt a).Fits now e →
      (Part.objectAt a).after now e = old := by
    rintro e he _ rfl -
    exact Part.objectAt_ignores (List.filterMap_eq_nil_iff.1 unstored e he) _
  obtain ⟨now, rfl, fits⟩ := admitted.fits ignored rfl _ look
  exact fits rfl

/-- Where every object stored is the same secret, it stands there in the end. -/
theorem objectAt_run_of_secret {m : List Event} {a : Address} {old : Option Object} {o : Object}
    (only : ∀ o' ∈ stored m, o'.address = a → o' = o) (secret : ∀ old, o.keepingStatus old = o)
    (some' : o ∈ stored m) (here : o.address = a) : (Part.objectAt a).run old m = some o := by
  rw [Part.objectAt_run, storedAt_eq]
  have all : ∀ o' ∈ (stored m).filter (·.address = a), o' = o := fun o' ho' =>
    only o' (List.mem_filter.1 ho').1 (of_decide_eq_true (List.mem_filter.1 ho').2)
  have there : (stored m).filter (·.address = a) ≠ [] :=
    List.ne_nil_of_mem (List.mem_filter.2 ⟨some', decide_eq_true here⟩)
  obtain ⟨before, last, split⟩ := (List.eq_nil_or_concat _).resolve_left there
  rw [split] at all ⊢
  obtain rfl := all last (by simp)
  simp [secret]

section Accomplished

variable {m : List Event} {w w' : World} {host address : String} {ca : KeyedCertificate}
  {amqps internal : Object} (p : Parts settings cp m) (follows : w.Follows m w')

theorem mem_of_controller {e : Event} (he : e ∈ p.controller) : e ∈ m :=
  p.apart.mem_iff.2 (.inr (p.othersApart.mem_iff.2 (.inl he)))

include p follows in
/-- In the end the interface knows the declared user and has the router registered. -/
theorem interface_of_clean (controller : CleanController settings cp target host p.controller) :
    (w'.api (internalUrl target.namespaceName)).users.get? cp.spec.user.email =
        some cp.spec.user.password.decode ∧
      (w'.api (internalUrl target.namespaceName)).router = some (registration cp host) := by
  have accounts := follows.accountsAt (internalUrl target.namespaceName)
  have heard := p.seen_by_interface (P := Part.accountsAt (internalUrl target.namespaceName))
    (fun _ h => Part.accountsAt_ignores h) (w.accounts (internalUrl target.namespaceName))
  have registered := (p.seen_by_interface (P := Part.routerAt (internalUrl target.namespaceName))
    (fun _ h => Part.routerAt_ignores h) (w.api (internalUrl target.namespaceName)).router).1
  obtain ⟨user, router⟩ := controller.interface (w.api (internalUrl target.namespaceName)).router
    (heard.2 accounts.1)
  refine ⟨?_, (follows.routerAt _).trans (registered.trans router)⟩
  exact (congrArg (fun a : Accounts => a.users.get? cp.spec.user.email)
    (accounts.2.trans heard.1)).trans user

section Clean

variable (router : CleanRouter settings cp target address ca amqps internal p.router)
  (controller : CleanController settings cp target host p.controller)
  (portManager : CleanPortManager settings cp target p.portManager)
include follows router controller portManager

theorem replaced_of_clean {o : Object}
    (h : o ∈ replacedObjects settings cp target.namespaceName amqps internal) :
    w'.cluster.object? o.address =
      some ((o.ownedBy target.owner).keepingStatus (w.cluster.object? o.address)) :=
  (follows.objectAt o.address).2.trans
    (Part.objectAt_run_singleton (storedAt_replaced p router controller portManager h))

theorem leaves_of_clean : ∃ alternative, KeyedCertificate.alternativeName address = .ok alternative ∧
    ∀ name ∈ Router.leafSecretNames, ∃ fresh,
      w'.cluster.object? ⟨.secret, target.namespaceName, name⟩ =
        some ((leafSecret target.namespaceName ca address alternative name fresh).ownedBy target.owner) := by
  obtain ⟨alternative, named, ⟨fresh, hamqps⟩, fresh', hinternal⟩ := router.named
  have leaf {o : Object} {name : String} {fresh : KeyPair}
      (h : o ∈ replacedObjects settings cp target.namespaceName amqps internal)
      (is : o = leafSecret target.namespaceName ca address alternative name fresh) :
      w'.cluster.object? ⟨.secret, target.namespaceName, name⟩ =
        some ((leafSecret target.namespaceName ca address alternative name fresh).ownedBy
          target.owner) := by
    subst is
    exact (replaced_of_clean p follows router controller portManager h).trans
      (congrArg some (Object.keepingStatus_secret _ _))
  refine ⟨alternative, named, fun name h => ?_⟩
  rcases List.mem_cons.1 h with rfl | h
  · exact ⟨fresh, leaf (mem_replacedObjects.2 (.inr (.inl rfl))) hamqps⟩
  · obtain rfl := List.mem_singleton.1 h
    exact ⟨fresh', leaf (mem_replacedObjects.2 (.inr (.inr rfl))) hinternal⟩

/-- A secret that the operator does not write is as it was found. -/
theorem unwritten_of_clean {name : String} (foreign : name ∉ operatorSecrets) {found : Option Object}
    (look : ⟨.get ⟨.secret, target.namespaceName, name⟩, .ok found⟩ ∈ m) :
    w'.cluster.object? ⟨.secret, target.namespaceName, name⟩ = found := by
  have unstored : m.filterMap (·.storedAt? ⟨.secret, target.namespaceName, name⟩) = [] := by
    refine storedAt_other p router controller portManager (fun o ho here => ?_) fun name' h here => ?_
    · have named := name_of_declared_secret ho (congrArg Address.kind here)
      rw [show o.name = name from congrArg Address.name here] at named
      exact foreign (by simp [named, operatorSecrets, replacedSecrets])
    · obtain rfl : name = name' := congrArg Address.name here
      exact foreign (by
        simp only [secretNames, operatorSecrets, replacedSecrets, Router.leafSecretNames, List.mem_cons,
          List.not_mem_nil, or_false] at h ⊢
        grind)
  obtain ⟨admitted, final⟩ := follows.objectAt ⟨.secret, target.namespaceName, name⟩
  rw [final, Part.objectAt_run_of_nil unstored, found_of_unstored unstored admitted look]

theorem credentials_of_clean (saved : (credentialsOf target cp.spec.user).ownedBy target.owner ∈ stored m) :
    w'.cluster.object? (credentialsAddress target.namespaceName) =
      some ((credentialsOf target cp.spec.user).ownedBy target.owner) := by
  rw [(follows.objectAt _).2]
  refine objectAt_run_of_secret (fun o ho here => ?_) (fun old => ?_) saved ?_
  · exact eq_credentials_of_stored p router controller portManager ho here
  · exact Object.keepingStatus_secret _ _
  · rw [Object.address_ownedBy]
    rfl

/-- The address of the controller's load balancer is the one that was found at any time. -/
theorem controllerAddress_of_clean {found : Option Object}
    (look : ⟨.get ⟨.service, target.namespaceName, Controller.name⟩, .ok found⟩ ∈ m) :
    externalAddress? (w'.cluster.object? ⟨.service, target.namespaceName, Controller.name⟩) =
      externalAddress? found := by
  have service : Object.service ((controllerOf settings cp).serviceOf target.namespaceName
      ⟨Controller.name, (controllerConfig settings cp).serviceType,
        (controllerConfig settings cp).loadBalancerIP, [Controller.apiPort, Controller.viewerPort]⟩) ∈
      replacedObjects settings cp target.namespaceName amqps internal := by
    simp [replacedObjects, Component.services, Component.serviceObject, controllerOf,
      Controller.component]
  obtain ⟨admitted, final⟩ := follows.objectAt ⟨.service, target.namespaceName, Controller.name⟩
  rw [final]
  exact externalAddress?_found rfl (storedAt_replaced p router controller portManager service) admitted look

end Clean

include p follows in
theorem credentials_stand (portManager : CleanPortManager settings cp target p.portManager) :
    (w'.cluster.object? (credentialsAddress target.namespaceName)).isSome := by
  obtain ⟨t₁, t₂, t₃, r, htrace, -, synced, -⟩ := portManager.trace
  obtain ⟨admits, final⟩ := follows.store
  have mine {e : Event} (he : e ∈ t₂) : e ∈ m :=
    p.apart.mem_iff.2 (.inr (p.othersApart.mem_iff.2 (.inr (by simp [htrace, he]))))
  rw [final]
  obtain ⟨rfl, -⟩ | ⟨old, -, ⟨⟩, -⟩ | ⟨old, rfl, -⟩ := yields_sync synced
  · refine Store.isSome_of_shown admits (by simp [credentialsAddress])
      (mine (List.mem_cons_of_mem _ List.mem_cons_self)) (.inl ⟨_, Event.storedAt?_eq_some.2 ⟨rfl, ?_⟩⟩)
    rw [Object.address_ownedBy]
    rfl
  · exact Store.isSome_of_shown admits (by simp [credentialsAddress]) (mine List.mem_cons_self)
      (.inr ⟨old, rfl⟩)

end Accomplished

/-- After a clean pass nothing is lacking. -/
theorem accomplished_of_clean {w : World} (reliable : w.faults = [])
    (filed : w.cluster.IsFiled)
    (pull : cp.spec.images.pullSecret = "" ∨ cp.spec.images.pullSecret ∉ operatorSecrets)
    (clean : (w.run (converge settings cp)).1.isClean) :
    ∃ target host alternative ca, Target.of cp = .ok target ∧
      Accomplished settings cp target host alternative ca (w.run (converge settings cp)).2 := by
  obtain ⟨p, outcome⟩ := plays_converge (w.plays_trace (converge settings cp))
  rw [← outcome, Parts.isClean_outcome] at clean
  obtain ⟨cleanR, cleanC, cleanP⟩ : p.routerOutcome.isClean ∧ p.controllerOutcome.isClean ∧
      p.portManagerOutcome.isClean := by simpa [Parts.isClean] using clean
  obtain ⟨target, host, ca, amqps, internal, router⟩ := cleanRouter p.playsRouter cleanR
  obtain ⟨target₁, host', controller⟩ := cleanController p.playsController cleanC
  obtain ⟨target₂, htarget, assured⟩ := assured_of_clean p.playsController cleanC
  obtain ⟨target₃, portManager⟩ := cleanPortManager p.playsPortManager cleanP
  obtain rfl := Except.ok.inj (router.target_eq.symm.trans controller.target_eq)
  obtain rfl := Except.ok.inj (router.target_eq.symm.trans htarget)
  obtain rfl := Except.ok.inj (router.target_eq.symm.trans portManager.target_eq)
  have follows := w.follows_trace (converge settings cp)
  obtain ⟨admitted, final⟩ := follows.objectAt ⟨.service, target.namespaceName, Router.name⟩
  obtain ⟨known, rfl⟩ := knownAddress_run p router controller portManager admitted
  obtain ⟨alternative, named, leaves⟩ := leaves_of_clean p follows router controller portManager
  have interface := interface_of_clean p follows controller
  refine ⟨target, host', alternative, ca, router.target_eq, ?_⟩
  constructor
  case tries => exact assured.tries
  case reliable => exact follows.reliable reliable
  case declared =>
    exact fun o ho => ⟨_, replaced_of_clean p follows router controller portManager
      (mem_replacedObjects.2 (.inl ho))⟩
  case known => rw [final, known]
  case named => exact named
  case authority =>
    have secret (o : Object) (h : w.cluster.object? ⟨.secret, target.namespaceName,
        Router.authoritySecretName⟩ = some o) : ∃ s, o = .secret s := by
      have kind := congrArg Address.kind (filed _ o h)
      cases o <;> first | exact ⟨_, rfl⟩ | cases kind
    obtain ⟨admitted, final⟩ := follows.objectAt ⟨.secret, target.namespaceName,
      Router.authoritySecretName⟩
    obtain ⟨authority, stands, loaded, -⟩ := authority_loaded p router admitted secret
    exact ⟨authority, final.trans stands, loaded⟩
  case leaves => exact leaves
  case credentials => exact credentials_stand p follows portManager
  case pulls =>
    refine pull.elim .inl fun foreign => ?_
    rcases assured.pulls with empty | ⟨found, secret, look, isSecret, right⟩
    · exact .inl empty
    · have kept := unwritten_of_clean p follows router controller portManager foreign
        (mem_of_controller p look)
      exact .inr ⟨secret, by rw [kept, isSecret], right⟩
  case accepts =>
    obtain ⟨status, told⟩ := assured.serves
    exact follows.accepts (mem_of_controller p told)
  case user => exact interface.1
  case router => exact interface.2
  case registers =>
    intro broken
    obtain ⟨r, asked, wentOn⟩ := assured.registers
    have answer := follows.signUp_of_broken reliable (mem_of_controller p asked) broken
    rcases wentOn _ answer with registered | ⟨invalid, saved⟩
    · exact .inl registered
    · refine .inr ⟨invalid, credentials_of_clean p follows router controller portManager ?_⟩
      obtain ⟨e, he, stores⟩ := List.mem_filterMap.1 saved
      exact List.mem_filterMap.2 ⟨e, mem_of_controller p he, stores⟩
  case acceptsOutside =>
    intro balanced
    obtain ⟨found, address, status, look, known, told⟩ := assured.servesOutside balanced
    refine ⟨address, ?_, follows.accepts (mem_of_controller p told)⟩
    rw [controllerAddress_of_clean p follows router controller portManager (mem_of_controller p look), known]

end Reconcile

end EdgePlane
