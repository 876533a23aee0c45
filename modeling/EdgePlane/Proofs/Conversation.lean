import EdgePlane.Proofs.ControllerTrace
import EdgePlane.Proofs.Happening
import EdgePlane.Proofs.Reporting

/-!
# The conversation with the management interface

A pass of the controller's part says nothing to the management interface before the controller is deployed
and every earlier step went through. After that it follows one protocol, whatever the interface answers: it
asks for the status until something serves, registers the user, logs in, changes the password if the
declared one is not accepted, and registers the router under the token of the last login.
-/

namespace EdgePlane

open Kubernetes Management

/-- Whether a call is answered by the management interface. -/
def Call.isExchange : Call → Bool
  | .status _ => true
  | .signUp _ _ => true
  | .logIn _ _ => true
  | .changePassword _ _ _ => true
  | .putRouter _ _ _ => true
  | _ => false

/-- The calls of the management interface in a trace, in their order. -/
def exchanges (t : List Event) : List Event := t.filter (·.call.isExchange)

@[simp] theorem exchanges_append (t u : List Event) : exchanges (t ++ u) = exchanges t ++ exchanges u :=
  List.filter_append ..

theorem exchanges_cons_of_pos {e : Event} (t : List Event) (h : e.call.isExchange = true) :
    exchanges (e :: t) = e :: exchanges t := List.filter_cons_of_pos h

theorem exchanges_cons_of_neg {e : Event} (t : List Event) (h : e.call.isExchange = false) :
    exchanges (e :: t) = exchanges t := List.filter_cons_of_neg (Bool.not_eq_true _ ▸ h)

theorem exchanges_eq_nil {t : List Event} (h : ∀ e ∈ t, e.call.isExchange = false) : exchanges t = [] := by
  refine List.filter_eq_nil_iff.2 fun e he => ?_
  rw [h e he]
  exact Bool.false_ne_true

theorem exchanges_eq_self {t : List Event} (h : ∀ e ∈ t, e.call.isExchange = true) : exchanges t = t :=
  List.filter_eq_self.2 h

theorem not_exchange_of_about {c : Call} (h : c.isAboutObject = true) : c.isExchange = false := by
  cases c <;> first | rfl | cases h

/-- A sync is no conversation. -/
theorem exchanges_of_sync {owner : OwnerReference} {mode : SyncMode} {o : Object} {t : List Event}
    {r : Except Failure SyncResult} (h : (sync owner mode o).run.Plays t r) : exchanges t = [] :=
  exchanges_eq_nil (Program.Plays.only (P := (·.isExchange = false)) h (sync_reach rfl rfl fun _ => rfl))

namespace Bootstrap

variable {url email old new : String} {user : ControlPlane.User} {t : List Event}

/-- The status is asked for up to `attempts` times. All answers but the last are refusals, and the last is
one only if no attempt is left. -/
inductive Polls (url : String) (attempts : Nat) : Except ApiError ControllerStatus → List Event → Prop
  | intro (refusals : List ApiError) (last : Except ApiError ControllerStatus)
    (refused : ∀ e ∈ refusals, e.isRefused = true) (within : refusals.length < attempts)
    (spent : ∀ e, last = .error e → e.isRefused = true → refusals.length + 1 = attempts) :
    Polls url attempts last
      (refusals.map (fun e => (⟨.status url, .error e⟩ : Event)) ++ [⟨.status url, last⟩])

/-- A refusal before the others. -/
theorem Polls.refusal {attempts : Nat} {last : Except ApiError ControllerStatus}
    (h : Polls url attempts last t) {e : ApiError} (refused : e.isRefused = true) :
    Polls url (attempts + 1) last (⟨.status url, .error e⟩ :: t) := by
  obtain ⟨refusals, _, allRefused, within, spent⟩ := h
  refine .intro (e :: refusals) last ?_ ?_ ?_
  · intro e' he'
    rcases List.mem_cons.1 he' with rfl | he'
    · exact refused
    · exact allRefused e' he'
  · rw [List.length_cons]
    omega
  · intro cause failed again
    have := spent cause failed again
    rw [List.length_cons]
    omega

theorem Polls.exchanges {attempts : Nat} {last : Except ApiError ControllerStatus}
    (h : Polls url attempts last t) : exchanges t = t := by
  obtain ⟨refusals, _, -, -, -⟩ := h
  refine exchanges_eq_self fun e he => ?_
  rcases List.mem_append.1 he with he | he
  · obtain ⟨cause, -, rfl⟩ := List.mem_map.1 he
    rfl
  · obtain rfl := List.mem_singleton.1 he
    rfl

/-- Waiting succeeds if the last status that was asked for was shown. -/
theorem plays_poll {limit : RetryLimit} {remaining : Nat} {r : Except Failure Unit}
    (h : (poll url limit remaining).run.Plays t r) (left : remaining ≠ 0) :
    (∃ status, Polls url remaining (.ok status) t ∧ r = .ok ()) ∨
      ∃ e failure, Polls url remaining (.error e) t ∧ r = .error failure := by
  induction remaining generalizing t with
  | zero => exact absurd rfl left
  | succ n ih =>
    rcases Attempt.plays_bind h with ⟨e, failed, -⟩ | ⟨t₁, answer, t₂, rfl, asked, rest⟩
    · exact (Attempt.fails_ofProgram.1 failed).elim
    obtain rfl := (Program.plays_perform rfl).1 (Attempt.yields_ofProgram.1 asked)
    have once {last : Except ApiError ControllerStatus}
        (spent : ∀ e, last = .error e → e.isRefused = true → n = 0) :
        Polls url (n + 1) last [⟨.status url, last⟩] := by
      refine .intro [] last (by simp) (by simp) fun e failed again => ?_
      have := spent e failed again
      simp [this]
    cases answer with
    | ok status =>
      obtain ⟨rfl, rfl⟩ := Program.plays_pure.1 rest
      exact .inl ⟨status, once nofun, rfl⟩
    | error e =>
      dsimp only at rest
      split at rest
      · rename_i refused
        by_cases more : n = 0
        · subst more
          rw [if_neg (by simp)] at rest
          obtain ⟨rfl, rfl⟩ := Program.plays_pure.1 rest
          exact .inr ⟨e, _, once fun _ _ _ => rfl, rfl⟩
        · rw [if_pos more] at rest
          -- Sleeping leaves no event, so what is played is what the other attempts play.
          have slept : (poll url limit n).run.Plays t₂ r := by
            rcases Attempt.plays_bind rest with ⟨e, failed, -⟩ | ⟨u, _, v, rfl, asleep, polled⟩
            · exact (Attempt.fails_sleep.1 failed).elim
            · obtain rfl := Attempt.yields_sleep.1 asleep
              exact polled
          rcases ih slept more with ⟨status, polls, rfl⟩ | ⟨cause, failure, polls, rfl⟩
          · exact .inl ⟨status, polls.refusal refused, rfl⟩
          · exact .inr ⟨cause, failure, polls.refusal refused, rfl⟩
      · rename_i other
        obtain ⟨rfl, rfl⟩ := Program.plays_pure.1 rest
        refine .inr ⟨e, _, once fun cause failed again => ?_, rfl⟩
        obtain rfl := Except.error.inj failed
        exact absurd again other

theorem Enters.exchanges {answer : Except ApiError AccessToken} (h : Enters url user answer t) :
    exchanges t = t := by
  cases h <;> rfl

theorem exchanges_changeOf (url token old new : String) (r : Except ApiError Unit) :
    exchanges (changeOf url token old new r) = changeOf url token old new r := by
  unfold changeOf
  split <;> rfl

theorem Changes.exchanges {answer : Except ApiError AccessToken}
    (h : Changes url email old new answer t) : exchanges t = t := by
  cases h with
  | refused cause => rfl
  | unchanged held cause changes => rfl
  | changed held answer =>
    rw [exchanges_cons_of_pos _ rfl, exchanges_append, exchanges_changeOf]
    rfl

end Bootstrap

namespace Reconcile

open Bootstrap

variable {settings : Setup} {cp : ControlPlane} {target : Target} {ns : String}
  {user : ControlPlane.User} {t : List Event}

/-- The outcome that an attempt comes to. -/
def outcomeOf : Except Failure Outcome → Outcome
  | .ok o => o
  | .error e => .failed e

theorem plays_settle_outcome {x : Attempt Outcome} {o : Outcome} (h : (settle x).Plays t o) :
    ∃ r, x.run.Plays t r ∧ o = outcomeOf r := by
  rcases plays_settle.1 h with yields | ⟨e, failed, rfl⟩
  · exact ⟨.ok o, yields, rfl⟩
  · exact ⟨.error e, failed, rfl⟩

/-- What is said to open a session, as part of a trace, and the token of the session if it is opened. The
password is changed only after the declared one was not accepted, and from the one that the port manager
was found to hold. -/
inductive Opens (ns : String) (user : ControlPlane.User) (t : List Event) :
    Option String → List Event → Prop
  | entered (answer : AccessToken) (u : List Event) (enters : Enters (internalUrl ns) user (.ok answer) u) :
    Opens ns user t (some answer.accessToken) u
  | barred (cause : ApiError) (u : List Event) (enters : Enters (internalUrl ns) user (.error cause) u)
    (lost : cause.isInvalidCredentials = false ∨ ∃ r, ⟨.get (credentialsAddress ns), r⟩ ∈ t ∧
      ∀ found, r = .ok found → heldPassword? found = none) :
    Opens ns user t none u
  | moved (cause : ApiError) (u v : List Event) (found : Option Object) (previous : Credential)
    (answer : Except ApiError AccessToken) (enters : Enters (internalUrl ns) user (.error cause) u)
    (invalid : cause.isInvalidCredentials = true) (look : ⟨.get (credentialsAddress ns), .ok found⟩ ∈ t)
    (held : heldPassword? found = some previous.encoded)
    (changes : Changes (internalUrl ns) user.email previous.decode user.password.decode answer v) :
    Opens ns user t (answer.toOption.map (·.accessToken)) (u ++ v)

/-- What was looked up stays looked up in a longer trace. -/
theorem Opens.mono {token : Option String} {u v : List Event} (h : Opens ns user u token v)
    (sub : ∀ e ∈ u, e ∈ t) : Opens ns user t token v := by
  cases h with
  | entered answer _ enters => exact .entered answer v enters
  | barred cause _ enters lost =>
    refine .barred cause v enters (lost.imp id ?_)
    rintro ⟨r, look, none⟩
    exact ⟨r, sub _ look, none⟩
  | moved cause u v found previous answer enters invalid look held changes =>
    exact .moved cause u v found previous answer enters invalid (sub _ look) held changes

/-- How the controller's part opens a session. The session that it goes on with has the token of the last
login. -/
theorem opens_of_openSession {r : Except Failure Session}
    (h : (openSession target (internalUrl target.namespaceName) user).run.Plays t r) :
    ∃ token, Opens target.namespaceName user t token (exchanges t) ∧
      (∀ s, r = .ok s → token = some s.token) ∧ (token = none → ∃ e, r = .error e) := by
  have same {answer : Except ApiError AccessToken} {s : Session}
      (h : (Except.ok s : Except Failure Session) =
        sessionFor (internalUrl target.namespaceName) answer) :
      ∃ a, answer = .ok a ∧ s.token = a.accessToken := by
    cases answer with
    | ok a =>
      obtain rfl := Except.ok.inj h
      exact ⟨a, rfl, rfl⟩
    | error cause => cases h
  rcases plays_openSession h with ⟨s, entered, rfl⟩ | ⟨e, barred, rfl, valid⟩ |
    ⟨t₁, e, t₂, rfl, failed, invalid, rotates⟩
  · obtain ⟨answer, opened, enters⟩ := plays_ensureUser entered
    obtain ⟨a, rfl, token⟩ := same opened
    rw [enters.exchanges]
    refine ⟨some a.accessToken, .entered a t enters, fun s' equal => ?_, nofun⟩
    rw [← Except.ok.inj equal, token]
  · obtain ⟨answer | answer, failed, enters⟩ := plays_ensureUser barred
    · cases failed
      rw [enters.exchanges]
      exact ⟨none, .barred answer t enters (.inl valid), nofun, fun _ => ⟨_, rfl⟩⟩
    · cases failed
  obtain ⟨cause | answer, failure, enters⟩ := plays_ensureUser failed
  swap
  · cases failure
  cases failure
  -- The exchanges of a change of the password are those between its lookup and the storing that follows.
  have changed {found : Option Object} {previous : Credential} {u v : List Event}
      {answer : Except ApiError AccessToken} (held : heldPassword? found = some previous.encoded)
      (changes : Changes (internalUrl target.namespaceName) user.email previous.decode
        user.password.decode answer u) (quiet : exchanges v = []) :
      Opens target.namespaceName user
        (t₁ ++ ⟨.get (credentialsAddress target.namespaceName), .ok found⟩ :: (u ++ v))
        (answer.toOption.map (·.accessToken))
        (exchanges (t₁ ++ ⟨.get (credentialsAddress target.namespaceName), .ok found⟩ :: (u ++ v))) := by
    have said : exchanges (⟨.get (credentialsAddress target.namespaceName), .ok found⟩ :: (u ++ v)) = u := by
      rw [exchanges_cons_of_neg _ rfl, exchanges_append, quiet, changes.exchanges, List.append_nil]
    rw [exchanges_append, enters.exchanges, said]
    exact .moved cause t₁ u found previous answer enters invalid (by simp) held changes
  cases rotates with
  | unread answer e unreadable =>
    have said : exchanges [⟨.get (credentialsAddress target.namespaceName), answer⟩] = [] := rfl
    rw [exchanges_append, enters.exchanges, said, List.append_nil]
    exact ⟨none, .barred cause t₁ enters (.inr ⟨answer, by simp, unreadable⟩), nofun, fun _ => ⟨e, rfl⟩⟩
  | refused found previous u e held rotated =>
    obtain ⟨cause' | answer, failure, changes⟩ := Bootstrap.plays_rotatePassword rotated
    · have opens := changed (v := []) held changes rfl
      rw [List.append_nil] at opens
      exact ⟨none, opens, nofun, fun _ => ⟨e, rfl⟩⟩
    · cases failure
  | unsaved found previous u v session e held rotated synced =>
    obtain ⟨answer, opened, changes⟩ := Bootstrap.plays_rotatePassword rotated
    exact ⟨_, changed held changes (exchanges_of_sync synced), nofun, fun _ => ⟨e, rfl⟩⟩
  | saved found previous u v w session result _ held rotated synced pods opened =>
    obtain ⟨answer, last, changes⟩ := Bootstrap.plays_rotatePassword rotated
    obtain ⟨a, rfl, token⟩ := same last
    have replaced : exchanges w = [] := by cases pods <;> rfl
    refine ⟨_, changed held changes ?_, fun s equal => ?_, nofun⟩
    · rw [exchanges_append, exchanges_of_sync synced, replaced, List.append_nil]
    · rw [opened s equal, token]
      rfl

/-- What a pass of the controller's part says to the interface inside the cluster while it does `t`, and the
outcome that this leads to. -/
inductive Conversation (settings : Setup) (cp : ControlPlane) (ns : String) (t : List Event)
    (o : Outcome) : List Event → Prop
  /-- The interface does not serve. -/
  | unavailable (e : ApiError) (polls : List Event)
    (polled : Polls (internalUrl ns) settings.retry.attempts (.error e) polls)
    (failed : o.failure.isSome = true) : Conversation settings cp ns t o polls
  /-- No session could be opened. -/
  | unopened (status : ControllerStatus) (polls u : List Event)
    (polled : Polls (internalUrl ns) settings.retry.attempts (.ok status) polls)
    (opens : Opens ns cp.spec.user t none u) (failed : o.failure.isSome = true) :
    Conversation settings cp ns t o (polls ++ u)
  /-- The address of the router is not known, or some step on the way to it failed. -/
  | unregistered (status : ControllerStatus) (token : String) (polls u : List Event)
    (polled : Polls (internalUrl ns) settings.retry.attempts (.ok status) polls)
    (opens : Opens ns cp.spec.user t (some token) u)
    (unknown : o.failure.isSome = true ∨ o = waiting settings ∧
      cp.spec.services.router.isLoadBalancer = true ∧
      ∃ found, ⟨.get ⟨.service, ns, Router.name⟩, .ok found⟩ ∈ t ∧ externalAddress? found = none) :
    Conversation settings cp ns t o (polls ++ u)
  /-- The router is registered at its address, under the token of the session. -/
  | registered (status : ControllerStatus) (token host : String) (polls u looked : List Event)
    (answer : Except ApiError Unit)
    (polled : Polls (internalUrl ns) settings.retry.attempts (.ok status) polls)
    (opens : Opens ns cp.spec.user t (some token) u) (sees : SeesAddress cp ns host looked)
    (within : ∀ e ∈ looked, e ∈ t) :
    Conversation settings cp ns t o
      (polls ++ (u ++ [⟨.putRouter (internalUrl ns) token (registration cp host), answer⟩]))

/-- The check from outside: the address of the controller is looked up, and the status is asked for once
at it. -/
inductive Probes (ns : String) : List Event → Prop
  | none : Probes ns []
  | unknown (r : Except Failure (Option Object)) : Probes ns [⟨.get ⟨.service, ns, Controller.name⟩, r⟩]
  | unopened (found : Option Object) (address : String) (e : Failure)
    (known : externalAddress? found = some address) :
    Probes ns [⟨.get ⟨.service, ns, Controller.name⟩, .ok found⟩,
      ⟨.connect (Net.apiBaseUrl address Controller.apiPort), .error e⟩]
  | asked (found : Option Object) (address : String) (answer : Except ApiError ControllerStatus)
    (known : externalAddress? found = some address) :
    Probes ns [⟨.get ⟨.service, ns, Controller.name⟩, .ok found⟩,
      ⟨.connect (Net.apiBaseUrl address Controller.apiPort), .ok ()⟩,
      ⟨.status (Net.apiBaseUrl address Controller.apiPort), answer⟩]

theorem plays_probeExternal {address : String} {r : Except Failure Unit}
    (h : (probeExternal address).run.Plays t r) {found : Option Object}
    (known : externalAddress? found = some address) :
    Probes ns (⟨.get ⟨.service, ns, Controller.name⟩, .ok found⟩ :: t) := by
  rcases Attempt.plays_bind h with ⟨e, failed, -⟩ | ⟨t₁, _, t₂, rfl, connected, rest⟩
  · rw [Attempt.fails_connect.1 failed]
    exact .unopened found address e known
  · obtain rfl := Attempt.yields_connect.1 connected
    have once {last : Except ApiError ControllerStatus}
        (polls : Polls (Net.apiBaseUrl address Controller.apiPort) 1 last t₂) :
        t₂ = [⟨.status (Net.apiBaseUrl address Controller.apiPort), last⟩] := by
      obtain ⟨refusals, _, -, within, -⟩ := polls
      obtain rfl : refusals = [] := List.length_eq_zero_iff.1 (by omega)
      rfl
    rcases plays_poll rest Nat.one_ne_zero with ⟨status, polls, -⟩ | ⟨e, failure, polls, -⟩
    · obtain rfl := once polls
      exact .asked found address _ known
    · obtain rfl := once polls
      exact .asked found address _ known

theorem routerAddress_quiet (cp : ControlPlane) (ns : String) :
    (routerAddress cp ns).Only (·.isExchange = false) := by
  unfold routerAddress
  dsimp only
  split
  · exact .bind (Program.Only.perform rfl) fun _ => .pure _
  · split
    · exact .throw _
    · exact .pure _

/-- What the lookup of the router's address leaves: an address, the knowledge that there is none yet, or a
failure. It says nothing to the interface. -/
theorem plays_routerAddress {r : Except Failure (Option String)}
    (h : (routerAddress cp ns).run.Plays t r) :
    exchanges t = [] ∧ ((∃ e, r = .error e) ∨ (∃ host, r = .ok (some host) ∧ SeesAddress cp ns host t) ∨
      r = .ok none ∧ cp.spec.services.router.isLoadBalancer = true ∧
        ∃ found, ⟨.get ⟨.service, ns, Router.name⟩, .ok found⟩ ∈ t ∧ externalAddress? found = none) := by
  refine ⟨exchanges_eq_nil (Program.Plays.only h (routerAddress_quiet cp ns)), ?_⟩
  match r with
  | .error e => exact .inl ⟨e, rfl⟩
  | .ok (some host) => exact .inr (.inl ⟨host, rfl, yields_routerAddress h⟩)
  | .ok none =>
    refine .inr (.inr ⟨rfl, ?_⟩)
    unfold routerAddress at h
    dsimp only at h
    split at h
    · rename_i balanced
      obtain ⟨found, rfl, missing⟩ := Attempt.yields_discoverAddress.1 h
      exact ⟨balanced, found, by simp, missing.symm⟩
    · split at h
      · exact (Attempt.yields_throw.1 h).elim
      · obtain ⟨-, ⟨⟩⟩ := Attempt.yields_pure.1 h

/-- What the bootstrap does after the registration of the router: a controller behind a load balancer is
checked from outside. -/
def checkOutside (settings : Setup) (cp : ControlPlane) (ns : String) : Attempt Outcome :=
  if !cp.spec.services.controller.isLoadBalancer then return .proceed
  else do
    match ← Attempt.discoverAddress ns Controller.name with
    | none => return waiting settings
    | some address =>
      tryCatch (do probeExternal address; return .proceed) fun _ => return waiting settings

theorem probes_of_checkOutside {r : Except Failure Outcome}
    (h : (checkOutside settings cp ns).run.Plays t r) : Probes ns t := by
  unfold checkOutside at h
  split at h
  · obtain ⟨rfl, -⟩ := Program.plays_pure.1 h
    exact .none
  rcases Attempt.plays_bind h with ⟨e, failed, -⟩ | ⟨t₁, address, t₂, rfl, discovered, rest⟩
  · have look : t = [⟨.get ⟨.service, ns, Controller.name⟩, .error e⟩] := by
      rw [Attempt.discoverAddress, Attempt.fails_bind_pure] at failed
      exact Attempt.fails_get.1 failed
    rw [look]
    exact .unknown _
  obtain ⟨found, rfl, known⟩ := Attempt.yields_discoverAddress.1 discovered
  cases address with
  | none =>
    obtain ⟨rfl, -⟩ := Program.plays_pure.1 rest
    exact .unknown _
  | some address =>
    have probed : ∃ answer, (probeExternal address).run.Plays t₂ answer := by
      cases r with
      | ok o =>
        rcases Attempt.yields_tryCatch.1 rest with yields | ⟨u, e, v, rfl, failed, done⟩
        · obtain ⟨_, yields, -⟩ := Attempt.yields_bind_pure.1 yields
          exact ⟨_, yields⟩
        · obtain ⟨rfl, -⟩ := Attempt.yields_pure.1 done
          rw [List.append_nil]
          exact ⟨_, Attempt.fails_bind_pure.1 failed⟩
      | error e =>
        obtain ⟨u, e', v, -, -, done⟩ := Attempt.fails_tryCatch.1 rest
        exact (Attempt.fails_pure.1 done).elim
    obtain ⟨answer, probed⟩ := probed
    exact plays_probeExternal probed known.symm

/-- The bootstrap of the controller prepares to talk and holds one conversation inside the cluster, with at
most a check from outside after it. -/
theorem conversation_of_bootstrap {r : Except Failure Outcome} (tries : settings.retry.attempts ≠ 0)
    (h : (bootstrapController settings target cp).run.Plays t r) :
    (∃ e, t = [⟨.connect (internalUrl target.namespaceName), .error e⟩] ∧ r = .error e) ∨
      ∃ inside outside, t = ⟨.connect (internalUrl target.namespaceName), .ok ()⟩ :: (inside ++ outside) ∧
        Conversation settings cp target.namespaceName inside (outcomeOf r) (exchanges inside) ∧
        Probes target.namespaceName outside := by
  rcases Attempt.plays_bind h with ⟨e, failed, rfl⟩ | ⟨t₁, _, t₂, rfl, connected, rest₁⟩
  · exact .inl ⟨e, Attempt.fails_connect.1 failed, rfl⟩
  obtain rfl := Attempt.yields_connect.1 connected
  refine .inr ?_
  have alone {u : List Event}
      (talk : Conversation settings cp target.namespaceName u (outcomeOf r) (exchanges u)) :
      ∃ inside outside, [⟨.connect (internalUrl target.namespaceName), .ok ()⟩] ++ u =
          ⟨.connect (internalUrl target.namespaceName), .ok ()⟩ :: (inside ++ outside) ∧
        Conversation settings cp target.namespaceName inside (outcomeOf r) (exchanges inside) ∧
        Probes target.namespaceName outside :=
    ⟨u, [], by simp, talk, .none⟩
  rcases Attempt.plays_bind rest₁ with ⟨e, failed, rfl⟩ | ⟨t₃, _, t₄, rfl, available, rest₂⟩
  · rcases plays_poll failed tries with ⟨status, -, ⟨⟩⟩ | ⟨cause, failure, polls, -⟩
    refine alone ?_
    rw [polls.exchanges]
    exact .unavailable cause t₂ polls rfl
  obtain ⟨status, polls⟩ : ∃ status,
      Polls (internalUrl target.namespaceName) settings.retry.attempts (.ok status) t₃ := by
    rcases plays_poll available tries with ⟨status, polls, -⟩ | ⟨cause, failure, -, ⟨⟩⟩
    exact ⟨status, polls⟩
  rcases Attempt.plays_bind rest₂ with ⟨e, failed, rfl⟩ | ⟨t₅, session, t₆, rfl, opened, rest₃⟩
  · obtain ⟨token, opens, -, -⟩ := opens_of_openSession failed
    refine alone ?_
    rw [exchanges_append, polls.exchanges]
    cases token with
    | none => exact .unopened status t₃ _ polls (opens.mono (by simp +contextual)) rfl
    | some token =>
      exact .unregistered status token t₃ _ polls (opens.mono (by simp +contextual)) (.inl rfl)
  obtain ⟨token, opens, known, -⟩ := opens_of_openSession opened
  obtain rfl := known session rfl
  rcases Attempt.plays_bind rest₃ with ⟨e, failed, rfl⟩ | ⟨t₇, host, t₈, rfl, found, rest₄⟩
  · have quiet := (plays_routerAddress failed).1
    refine alone ?_
    rw [exchanges_append, exchanges_append, polls.exchanges, quiet, List.append_nil]
    exact .unregistered status session.token t₃ _ polls (opens.mono (by simp +contextual)) (.inl rfl)
  obtain ⟨quiet, ⟨e, ⟨⟩⟩ | ⟨address, same, sees⟩ | ⟨same, balanced, look⟩⟩ := plays_routerAddress found
  swap
  · obtain rfl := Except.ok.inj same
    obtain ⟨rfl, rfl⟩ := Program.plays_pure.1 rest₄
    obtain ⟨old, seen, none⟩ := look
    refine alone ?_
    rw [List.append_nil, exchanges_append, exchanges_append, polls.exchanges, quiet, List.append_nil]
    refine .unregistered status session.token t₃ _ polls (opens.mono (by simp +contextual))
      (.inr ⟨rfl, balanced, old, by simp [seen], none⟩)
  obtain rfl := Except.ok.inj same
  have registers (answer : Except ApiError Unit) (o : Outcome) :
      Conversation settings cp target.namespaceName
        (t₃ ++ (t₅ ++ (t₇ ++ [⟨.putRouter (internalUrl target.namespaceName) session.token
          (registration cp address), answer⟩]))) o
        (exchanges (t₃ ++ (t₅ ++ (t₇ ++ [⟨.putRouter (internalUrl target.namespaceName) session.token
          (registration cp address), answer⟩])))) := by
    rw [exchanges_append, exchanges_append, exchanges_append, polls.exchanges, quiet, List.nil_append]
    exact .registered status session.token address t₃ _ t₇ answer polls
      (opens.mono (by simp +contextual)) sees (fun e he => by simp [he])
  rcases Attempt.plays_bind rest₄ with ⟨e, failed, rfl⟩ | ⟨t₉, _, t₁₀, rfl, registered, rest₅⟩
  · obtain ⟨cause, refused, -⟩ := Attempt.fails_viaApi.1 failed
    obtain rfl := (Program.plays_perform rfl).1 refused
    exact alone (registers (.error cause) _)
  · obtain rfl := (Program.plays_perform rfl).1 (Attempt.yields_viaApi.1 registered)
    exact ⟨_, t₁₀, by simp, registers (.ok ()) _, probes_of_checkOutside rest₅⟩

/-- What a pass of the controller's part has done before it talks: every call went through, and the controller
was found deployed whenever it was looked up. -/
structure Prepares (ns : String) (t : List Event) : Prop where
  silent : exchanges t = []
  succeeded : clusterFailures t = []
  deployed : ∃ old, ⟨.get (controllerAddress ns), .ok (some old)⟩ ∈ t
  lookups : ∀ r, ⟨.get (controllerAddress ns), r⟩ ∈ t → ∃ old, r = .ok (some old)

/-- A pass of the controller's part that says nothing. Some step failed, or the controller was not deployed
before and has to start. -/
inductive Silent (settings : Setup) (cp : ControlPlane) (t : List Event) (o : Outcome) : Prop
  | failed (silent : exchanges t = []) (failed : o.failure.isSome = true)
  | fresh (ns : String) (silent : exchanges t = []) (home : cp.metadata.namespaceName = some ns)
    (missing : ⟨.get (controllerAddress ns), .ok none⟩ ∈ t) (waits : o = waiting settings)

theorem exchanges_of_lookups (h : ∀ e ∈ t, ∃ a, e.call = .get a) : exchanges t = [] := by
  refine exchanges_eq_nil fun e he => ?_
  obtain ⟨a, look⟩ := h e he
  rw [look]
  rfl

theorem exchanges_of_syncController {r : Except Failure (Bool × Bool)}
    (h : (syncController settings target cp).run.Plays t r) : exchanges t = [] :=
  exchanges_eq_nil fun e he =>
    not_exchange_of_about (Program.Plays.only h (syncController_objects settings target cp) e he)

/-- The secret that images are pulled with is no deployment. -/
theorem not_deployment_of_verifyPullSecret {name : String} {r : Except Failure Unit}
    (h : (verifyPullSecret ns name).run.Plays t r) : ∀ e ∈ t, e.call.IsApartFrom .deployment := by
  refine Program.Plays.only (P := (·.IsApartFrom .deployment)) h
    (Attempt.Only.bind (.bind (Program.Only.perform Kind.noConfusion) fun _ => .pure _) fun found => ?_)
  cases found with
  | none => exact .throw _
  | some secret =>
    dsimp only
    split
    · exact .pure _
    · exact .throw _

/-- Where the controller was deployed before, its objects are brought about without a failure, and the
lookup of its deployment finds it. -/
theorem prepares_of_syncController {changed : Bool}
    (h : (syncController settings target cp).Yields t (true, changed)) :
    Prepares target.namespaceName t := by
  obtain ⟨t₁, t₂, d, rfl, apart, synced, existed⟩ := deployment_of_syncController h
  have succeeded := ((syncController_isCandid settings target cp).givesUp h).of_unreported
  obtain ⟨-, rfl⟩ | ⟨old, rfl, -⟩ | ⟨old, -, ⟨⟩, -⟩ := yields_sync synced
  · cases existed
  refine ⟨exchanges_of_syncController h, succeeded, ⟨old, ?_⟩, fun r look => ?_⟩
  · exact List.mem_append_right t₁ (List.mem_cons_self ..)
  · rcases List.mem_append.1 look with look | look
    · exact absurd rfl (apart _ look)
    · simp only [List.mem_cons, List.not_mem_nil, or_false] at look
      rcases look with same | same
      · cases same
        exact ⟨old, rfl⟩
      · cases same

/-- What leaves the deployment alone and goes through can come before the rest. -/
theorem Prepares.prepend {u : List Event} (h : Prepares ns u) (silent : exchanges t = [])
    (succeeded : clusterFailures t = []) (apart : ∀ e ∈ t, ∀ r, e ≠ ⟨.get (controllerAddress ns), r⟩) :
    Prepares ns (t ++ u) where
  silent := by rw [exchanges_append, silent, h.silent]; rfl
  succeeded := by rw [clusterFailures_append, succeeded, h.succeeded]; rfl
  deployed := by
    obtain ⟨old, found⟩ := h.deployed
    exact ⟨old, List.mem_append_right t found⟩
  lookups := fun r look => (List.mem_append.1 look).elim (fun early => absurd rfl (apart _ early r))
    (h.lookups r)

/-- The pods of the controller are replaced before it talks, if they are. -/
theorem Prepares.restarted (h : Prepares ns t) (name : String) :
    Prepares ns (t ++ [⟨.restart ns name, .ok ()⟩]) where
  silent := by rw [exchanges_append, h.silent]; rfl
  succeeded := by rw [clusterFailures_append, h.succeeded]; rfl
  deployed := by
    obtain ⟨old, found⟩ := h.deployed
    exact ⟨old, List.mem_append_left _ found⟩
  lookups := fun r look => (List.mem_append.1 look).elim (h.lookups r) fun late => by
    cases List.mem_singleton.1 late

/-- A pass of the controller's part either says nothing, or it prepares, and then it holds one conversation
with the interface inside the cluster. -/
inductive Converses (settings : Setup) (cp : ControlPlane) (t : List Event) (o : Outcome) : Prop
  | silent (silent : Silent settings cp t o)
  | talks (ns : String) (before inside outside : List Event)
    (home : cp.metadata.namespaceName = some ns)
    (split : t = before ++ ⟨.connect (internalUrl ns), .ok ()⟩ :: (inside ++ outside))
    (prepares : Prepares ns before)
    (conversation : Conversation settings cp ns inside o (exchanges inside))
    (probes : Probes ns outside)

/-- Lookups of something else can come before a conversation. -/
theorem Converses.prepend {u : List Event} {o : Outcome} (h : Converses settings cp u o)
    (lookups : ∀ e ∈ t, ∃ a, e.call = .get a) (succeeded : clusterFailures t = [])
    (apart : ∀ e ∈ t, e.call.IsApartFrom .deployment) : Converses settings cp (t ++ u) o := by
  have quiet := exchanges_of_lookups lookups
  cases h with
  | silent silent =>
    cases silent with
    | failed silent failed =>
      exact .silent (.failed (by rw [exchanges_append, quiet, silent]; rfl) failed)
    | fresh ns silent home missing waits =>
      exact .silent (.fresh ns (by rw [exchanges_append, quiet, silent]; rfl) home
        (List.mem_append_right t missing) waits)
  | talks ns before inside outside home split prepares conversation probes =>
    refine .talks ns (t ++ before) inside outside home (by rw [split, List.append_assoc])
      (prepares.prepend quiet succeeded fun e he r same => ?_) conversation probes
    subst same
    exact apart _ he rfl

/-- After its objects are brought about the controller's part talks, unless they were only just created or
their pods cannot be replaced. -/
theorem converses_of_driveController {r : Except Failure Outcome} (tries : settings.retry.attempts ≠ 0)
    (home : cp.metadata.namespaceName = some target.namespaceName)
    (h : (driveController settings target cp).run.Plays t r) : Converses settings cp t (outcomeOf r) := by
  rcases Attempt.plays_bind h with ⟨e, failed, rfl⟩ | ⟨t₁, ⟨existed, changed⟩, t₂, rfl, synced, rest⟩
  · exact .silent (.failed (exchanges_of_syncController failed) rfl)
  have quiet := exchanges_of_syncController synced
  cases existed with
  | false =>
    obtain ⟨rfl, rfl⟩ := Program.plays_pure.1 rest
    obtain ⟨u₁, u₂, d, rfl, -, deployment, existed⟩ := deployment_of_syncController synced
    rw [List.append_nil]
    refine .silent (.fresh target.namespaceName quiet home ?_ rfl)
    obtain ⟨rfl, rfl⟩ | ⟨old, -, -, rfl⟩ | ⟨old, -, ⟨⟩, -⟩ := yields_sync deployment
    · exact List.mem_append_right u₁ (List.mem_cons_self ..)
    · cases existed
  | true =>
    have prepares := prepares_of_syncController synced
    have boots {before u : List Event} (prepares : Prepares target.namespaceName before)
        (plays : (bootstrapController settings target cp).run.Plays u r) :
        Converses settings cp (before ++ u) (outcomeOf r) := by
      rcases conversation_of_bootstrap tries plays with ⟨e, rfl, rfl⟩ |
        ⟨inside, outside, rfl, conversation, probes⟩
      · exact .silent (.failed (by rw [exchanges_append, prepares.silent]; rfl) rfl)
      · exact .talks target.namespaceName before inside outside home rfl prepares conversation probes
    cases changed with
    | false => exact boots prepares rest
    | true =>
      rcases Attempt.plays_bind rest with ⟨e, failed, rfl⟩ | ⟨t₃, _, t₄, rfl, restarted, last⟩
      · rw [Attempt.fails_restart.1 failed]
        exact .silent (.failed (by rw [exchanges_append, quiet]; rfl) rfl)
      · obtain rfl := Attempt.yields_restart.1 restarted
        rw [← List.append_assoc]
        exact boots (prepares.restarted _) last

/-- Whatever is answered, a pass of the controller's part keeps to the protocol. -/
theorem converses_of_plays {o : Outcome} (tries : settings.retry.attempts ≠ 0)
    (h : (controller settings cp).Plays t o) : Converses settings cp t o := by
  obtain ⟨r, plays, rfl⟩ := plays_settle_outcome h
  rcases Attempt.plays_bind plays with ⟨e, failed, rfl⟩ | ⟨t₁, target, t₂, rfl, found, rest⟩
  · obtain ⟨rfl, -⟩ := Attempt.fails_ofExcept.1 failed
    exact .silent (.failed rfl rfl)
  obtain ⟨rfl, htarget⟩ := Attempt.yields_ofExcept.1 found
  have home := (Target.namespaceName_of htarget).1
  rw [List.nil_append]
  dsimp only at rest
  split at rest
  · rcases Attempt.plays_bind rest with ⟨e, failed, rfl⟩ | ⟨t₃, _, t₄, rfl, verified, rest⟩
    · exact .silent (.failed (exchanges_of_lookups (lookups_of_verifyPullSecret failed)) rfl)
    · exact (converses_of_driveController tries home rest).prepend (lookups_of_verifyPullSecret verified)
        ((verifyPullSecret_isCandid ..).givesUp verified).of_unreported
        (not_deployment_of_verifyPullSecret verified)
  · exact converses_of_driveController tries home rest

open Simulation in
/-- A world whose controller serves and knows the user by the password that the port manager holds. -/
def outdatedWorld : World where
  cluster := (({} : Cluster).insert
      (.secret (PortManager.credentialsSecret "ns" "a@b.c" (.ofPlain "one")))).insert
    (.deployment { metadata := .named "ns" Controller.name })
  apis := Dict.insert {} (internalUrl "ns") (ApiServer.addUser {} "a@b.c" "one")

open Simulation in
/-- There a control plane with a new password asks for the status, fails to register, is not let in, and logs
in with the old password, changes it, logs in with the new one and registers the router. -/
theorem converses_in_outdatedWorld :
    (exchanges (outdatedWorld.trace (controller .standard
      (plainControlPlane "a@b.c" (.ofPlain "two") {})))).length = 7 ∧
    Converses .standard (plainControlPlane "a@b.c" (.ofPlain "two") {})
      (outdatedWorld.trace (controller .standard (plainControlPlane "a@b.c" (.ofPlain "two") {})))
      (outdatedWorld.run (controller .standard (plainControlPlane "a@b.c" (.ofPlain "two") {}))).1 :=
  ⟨by decide +kernel, converses_of_plays (by decide) (World.plays_trace _ _)⟩

end Reconcile

end EdgePlane
