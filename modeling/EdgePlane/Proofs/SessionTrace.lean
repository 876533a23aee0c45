import EdgePlane.Proofs.Reach

/-!
# What opening a session does

The declared user is registered and logged in. If the password is not accepted, the user is moved from
the password that the port manager holds to the declared one, and the credentials of the port manager
are replaced after that.
-/

namespace EdgePlane

open Kubernetes Management

namespace Bootstrap

variable {url email password old new : String} {user : ControlPlane.User} {session : Session}
  {t : List Event} {e : Failure}

theorem yields_logIn :
    (logIn url email password).Yields t session ↔
      ∃ answer, t = [⟨.logIn url ⟨email, password⟩, .ok answer⟩] ∧
        session = ⟨url, answer.accessToken⟩ := by
  rw [logIn, Attempt.yields_bind_pure]
  constructor
  · rintro ⟨answer, h, rfl⟩
    exact ⟨answer, (Program.plays_perform rfl).1 (Attempt.yields_viaApi.1 h), rfl⟩
  · rintro ⟨answer, rfl, rfl⟩
    exact ⟨answer, Attempt.yields_viaApi.2 ((Program.plays_perform rfl).2 rfl), rfl⟩

theorem fails_logIn :
    (logIn url email password).Fails t e ↔
      ∃ cause, t = [⟨.logIn url ⟨email, password⟩, .error cause⟩] ∧ e = .api cause := by
  rw [logIn, Attempt.fails_bind_pure, Attempt.fails_viaApi]
  simp only [Program.plays_perform (c := .logIn url ⟨email, password⟩) rfl]

/-- The registration of a user. -/
def signUpOf (user : ControlPlane.User) : SignUp :=
  ⟨user.name, user.surname, user.email, user.password.decode⟩

/-- The login of a user. -/
def logInOf (user : ControlPlane.User) : LogIn := ⟨user.email, user.password.decode⟩

/-- The session that a login opens, or the failure that it ends with. -/
def sessionFor (url : String) : Except ApiError AccessToken → Except Failure Session
  | .ok answer => .ok ⟨url, answer.accessToken⟩
  | .error cause => .error (.api cause)

theorem plays_logIn {r : Except Failure Session} :
    (logIn url email password).run.Plays t r ↔
      ∃ answer, t = [⟨.logIn url ⟨email, password⟩, answer⟩] ∧ r = sessionFor url answer := by
  constructor
  · intro h
    cases r with
    | ok session =>
      obtain ⟨answer, rfl, rfl⟩ := yields_logIn.1 h
      exact ⟨.ok answer, rfl, rfl⟩
    | error e =>
      obtain ⟨cause, rfl, rfl⟩ := fails_logIn.1 h
      exact ⟨.error cause, rfl, rfl⟩
  · rintro ⟨answer | cause, rfl, rfl⟩
    · exact fails_logIn.2 ⟨_, rfl, rfl⟩
    · exact yields_logIn.2 ⟨_, rfl, rfl⟩

/-- There is a user after a registration: it went through, or there was one before. -/
def IsRegistered (r : Except ApiError Unit) : Prop :=
  ∀ cause, r = .error cause → cause.isAccountExists = true

/-- A registration, and a login of the user unless there is none. -/
inductive Enters (url : String) (user : ControlPlane.User) :
    Except ApiError AccessToken → List Event → Prop
  | unregistered (cause : ApiError) (unknown : cause.isAccountExists = false) :
    Enters url user (.error cause) [⟨.signUp url (signUpOf user), .error cause⟩]
  | loggedIn (r : Except ApiError Unit) (answer : Except ApiError AccessToken)
    (registered : IsRegistered r) :
    Enters url user answer [⟨.signUp url (signUpOf user), r⟩, ⟨.logIn url (logInOf user), answer⟩]

theorem plays_ensureUser {r : Except Failure Session} (h : (ensureUser url user).run.Plays t r) :
    ∃ answer, r = sessionFor url answer ∧ Enters url user answer t := by
  rcases Attempt.plays_bind h with ⟨e, failed, -⟩ | ⟨t₁, signedUp, t₂, rfl, asked, rest⟩
  · exact (Attempt.fails_ofProgram.1 failed).elim
  obtain rfl := (Program.plays_perform rfl).1 (Attempt.yields_ofProgram.1 asked)
  have enters (registered : IsRegistered signedUp)
      (h : (logIn url user.email user.password.decode).run.Plays t₂ r) :
      ∃ answer, r = sessionFor url answer ∧
        Enters url user answer ([⟨.signUp url (signUpOf user), signedUp⟩] ++ t₂) := by
    obtain ⟨answer, rfl, rfl⟩ := plays_logIn.1 h
    exact ⟨answer, rfl, .loggedIn signedUp answer registered⟩
  cases signedUp with
  | ok u => exact enters nofun rest
  | error cause =>
    dsimp only at rest
    split at rest
    · rename_i exists_
      refine enters (fun cause' same => ?_) rest
      obtain rfl := Except.error.inj same
      exact exists_
    · rename_i unknown
      cases r with
      | ok session => exact (Attempt.yields_throw.1 rest).elim
      | error e =>
        obtain ⟨rfl, rfl⟩ := Attempt.fails_throw.1 rest
        exact ⟨.error cause, rfl, .unregistered cause (Bool.eq_false_iff.2 unknown)⟩

theorem yields_ensureUser (h : (ensureUser url user).Yields t session) :
    ∃ r answer, t = [⟨.signUp url (signUpOf user), r⟩, ⟨.logIn url (logInOf user), .ok answer⟩] ∧
      session = ⟨url, answer.accessToken⟩ := by
  obtain ⟨answer | answer, opened, enters⟩ := plays_ensureUser h
  · cases opened
  · cases opened
    cases enters with
    | loggedIn r _ _ => exact ⟨r, answer, rfl, rfl⟩

theorem fails_ensureUser (h : (ensureUser url user).Fails t e) :
    (∃ cause, t = [⟨.signUp url (signUpOf user), .error cause⟩] ∧ e = .api cause) ∨
      ∃ r cause, t = [⟨.signUp url (signUpOf user), r⟩, ⟨.logIn url (logInOf user), .error cause⟩] ∧
        e = .api cause := by
  obtain ⟨cause | answer, failed, enters⟩ := plays_ensureUser h
  · cases failed
    cases enters with
    | unregistered _ _ => exact .inl ⟨cause, rfl, rfl⟩
    | loggedIn r _ _ => exact .inr ⟨r, cause, rfl, rfl⟩
  · cases failed

/-- The calls that change a password: none if the new one is empty or the same. -/
def changeOf (url token old new : String) (r : Except ApiError Unit) : List Event :=
  if !new.isEmpty && new ≠ old then [⟨.changePassword url token ⟨old, new⟩, r⟩] else []

theorem yields_changePassword {u : Unit} :
    (changePassword url session old new).Yields t u ↔
      t = changeOf url session.token old new (.ok ()) := by
  unfold changePassword changeOf
  split
  · rw [Attempt.yields_viaApi]
    exact Program.plays_perform rfl
  · simp

theorem fails_changePassword (h : (changePassword url session old new).Fails t e) :
    ∃ cause, t = [⟨.changePassword url session.token ⟨old, new⟩, .error cause⟩] ∧ e = .api cause ∧
      (!new.isEmpty && new ≠ old) = true := by
  unfold changePassword at h
  split at h
  · rename_i changes
    obtain ⟨cause, refused, rfl⟩ := Attempt.fails_viaApi.1 h
    exact ⟨cause, (Program.plays_perform rfl).1 refused, rfl, changes⟩
  · exact (Attempt.fails_pure.1 h).elim

/-- A login with the old password, the change of it, and a login with the new one, up to the first that
is refused. -/
inductive Changes (url email old new : String) : Except ApiError AccessToken → List Event → Prop
  | refused (cause : ApiError) :
    Changes url email old new (.error cause) [⟨.logIn url ⟨email, old⟩, .error cause⟩]
  | unchanged (held : AccessToken) (cause : ApiError) (changes : (!new.isEmpty && new ≠ old) = true) :
    Changes url email old new (.error cause) [⟨.logIn url ⟨email, old⟩, .ok held⟩,
      ⟨.changePassword url held.accessToken ⟨old, new⟩, .error cause⟩]
  | changed (held : AccessToken) (answer : Except ApiError AccessToken) :
    Changes url email old new answer (⟨.logIn url ⟨email, old⟩, .ok held⟩ ::
      (changeOf url held.accessToken old new (.ok ()) ++ [⟨.logIn url ⟨email, new⟩, answer⟩]))

theorem plays_rotatePassword {r : Except Failure Session}
    (h : (rotatePassword url email old new).run.Plays t r) :
    ∃ answer, r = sessionFor url answer ∧ Changes url email old new answer t := by
  rcases Attempt.plays_bind h with ⟨e, first, rfl⟩ | ⟨t₁, s, t₂, rfl, first, rest⟩
  · obtain ⟨cause, rfl, rfl⟩ := fails_logIn.1 first
    exact ⟨.error cause, rfl, .refused cause⟩
  obtain ⟨held, rfl, rfl⟩ := yields_logIn.1 first
  rcases Attempt.plays_bind rest with ⟨e, unchanged, rfl⟩ | ⟨t₃, u, t₄, rfl, changed, second⟩
  · obtain ⟨cause, rfl, rfl, changes⟩ := fails_changePassword unchanged
    exact ⟨.error cause, rfl, .unchanged held cause changes⟩
  · obtain rfl := yields_changePassword.1 changed
    obtain ⟨answer, rfl, rfl⟩ := plays_logIn.1 second
    exact ⟨answer, rfl, .changed held answer⟩

theorem yields_rotatePassword (h : (rotatePassword url email old new).Yields t session) :
    ∃ held answer, t = ⟨.logIn url ⟨email, old⟩, .ok held⟩ ::
        (changeOf url held.accessToken old new (.ok ()) ++
          [⟨.logIn url ⟨email, new⟩, .ok answer⟩]) ∧
      session = ⟨url, answer.accessToken⟩ := by
  obtain ⟨cause | answer, opened, changes⟩ := plays_rotatePassword h
  · cases opened
  · cases opened
    cases changes with
    | changed held _ => exact ⟨held, answer, rfl, rfl⟩

theorem fails_rotatePassword (h : (rotatePassword url email old new).Fails t e) :
    (∃ cause, t = [⟨.logIn url ⟨email, old⟩, .error cause⟩]) ∨
      (∃ held cause, t = ⟨.logIn url ⟨email, old⟩, .ok held⟩ ::
        changeOf url held.accessToken old new (.error cause)) ∨
      ∃ held cause, t = ⟨.logIn url ⟨email, old⟩, .ok held⟩ ::
        (changeOf url held.accessToken old new (.ok ()) ++
          [⟨.logIn url ⟨email, new⟩, .error cause⟩]) := by
  obtain ⟨cause | answer, failed, path⟩ := plays_rotatePassword h
  · cases failed
    cases path with
    | refused _ => exact .inl ⟨cause, rfl⟩
    | unchanged held _ changes =>
      refine .inr (.inl ⟨held, cause, ?_⟩)
      rw [changeOf, if_pos changes]
    | changed held _ => exact .inr (.inr ⟨held, cause, rfl⟩)
  · cases failed

end Bootstrap

namespace Reconcile

variable {target : Target} {url email : String} {user : ControlPlane.User} {session : Session}
  {t : List Event} {e : Failure}

/-- The place of the port manager's credentials. -/
def credentialsAddress (ns : String) : Address := ⟨.secret, ns, PortManager.credentialsSecretName⟩

/-- The encoded password that an object holds for the port manager. -/
def heldPassword? (o : Option Object) : Option String :=
  (o.bind (·.secret?)).bind (·.text? PortManager.passwordKey)

theorem yields_storedPassword {ns : String} {previous : Credential}
    (h : (storedPassword ns email).Yields t previous) :
    ∃ found, t = [⟨.get (credentialsAddress ns), .ok found⟩] ∧
      heldPassword? found = some previous.encoded := by
  obtain ⟨t₁, secret, t₂, rfl, look, rest⟩ := Attempt.yields_bind.1 h
  obtain ⟨found, rfl, rfl⟩ := Attempt.yields_getSecret.1 look
  cases hsecret : found.bind (·.secret?) with
  | none =>
    simp only [hsecret] at rest
    exact (Attempt.yields_throw.1 rest).elim
  | some secret =>
    simp only [hsecret] at rest
    cases htext : secret.text? PortManager.passwordKey with
    | none =>
      simp only [htext] at rest
      exact (Attempt.yields_throw.1 rest).elim
    | some encoded =>
      simp only [htext] at rest
      obtain ⟨rfl, rfl⟩ := Attempt.yields_pure.1 rest
      exact ⟨found, rfl, by simp [heldPassword?, hsecret, htext]⟩

theorem fails_storedPassword {ns : String} (h : (storedPassword ns email).Fails t e) :
    ∃ r, t = [⟨.get (credentialsAddress ns), r⟩] ∧
      (∀ found, r = .ok found → heldPassword? found = none) ∧
      (r = .error e ∨ ∃ found detail, r = .ok found ∧ e = .reconciliation detail) := by
  rcases Attempt.fails_bind.1 h with look | ⟨t₁, secret, t₂, rfl, look, rest⟩
  · refine ⟨.error e, Attempt.fails_getSecret.1 look, fun found same => ?_, .inl rfl⟩
    cases same
  obtain ⟨found, rfl, rfl⟩ := Attempt.yields_getSecret.1 look
  have unread : t₂ = [] ∧ heldPassword? found = none ∧ ∃ detail, e = .reconciliation detail := by
    cases hsecret : found.bind (·.secret?) with
    | none =>
      simp only [hsecret] at rest
      obtain ⟨rfl, rfl⟩ := Attempt.fails_throw.1 rest
      exact ⟨rfl, by simp [heldPassword?, hsecret], _, rfl⟩
    | some secret =>
      simp only [hsecret] at rest
      cases htext : secret.text? PortManager.passwordKey with
      | none =>
        simp only [htext] at rest
        obtain ⟨rfl, rfl⟩ := Attempt.fails_throw.1 rest
        exact ⟨rfl, by simp [heldPassword?, hsecret, htext], _, rfl⟩
      | some encoded =>
        simp only [htext] at rest
        exact (Attempt.fails_pure.1 rest).elim
  obtain ⟨rfl, none, detail, rfl⟩ := unread
  refine ⟨.ok found, rfl, fun found' same => ?_, .inr ⟨found, detail, rfl, rfl⟩⟩
  obtain rfl := Except.ok.inj same
  exact none

/-- The object with the declared credentials for the port manager. -/
def credentialsOf (target : Target) (user : ControlPlane.User) : Object :=
  .secret (PortManager.credentialsSecret target.namespaceName user.email user.password)

/-- The pods of the port manager are looked for, and replaced if there are any. -/
inductive ReplacesPods (ns : String) : List Event → Prop
  | look (r : Except Failure (Option Object)) :
    ReplacesPods ns [⟨.get ⟨.deployment, ns, PortManager.name⟩, r⟩]
  | replace (o : Object) (r : Except Failure Unit) :
    ReplacesPods ns [⟨.get ⟨.deployment, ns, PortManager.name⟩, .ok (some o)⟩,
      ⟨.restart ns PortManager.name, r⟩]

theorem ReplacesPods.idle {ns : String} (h : ReplacesPods ns t) : ∀ e ∈ t, e.IsIdle := by
  cases h <;> simp [Event.IsIdle, Event.stored?, Call.isAccountAt]

/-- How far a change of the password got. -/
inductive Rotates (target : Target) (url : String) (user : ControlPlane.User) :
    Except Failure Session → List Event → Prop
  /-- The password that the port manager holds could not be read. -/
  | unread (r : Except Failure (Option Object)) (e : Failure)
    (unreadable : ∀ found, r = .ok found → heldPassword? found = none)
    (told : r = .error e ∨ ∃ found detail, r = .ok found ∧ e = .reconciliation detail) :
    Rotates target url user (.error e) [⟨.get (credentialsAddress target.namespaceName), r⟩]
  /-- The interface stopped it. -/
  | refused (found : Option Object) (previous : Credential) (t : List Event) (e : Failure)
    (held : heldPassword? found = some previous.encoded)
    (rotated : (Bootstrap.rotatePassword url user.email previous.decode
      user.password.decode).Fails t e) :
    Rotates target url user (.error e)
      (⟨.get (credentialsAddress target.namespaceName), .ok found⟩ :: t)
  /-- The new credentials could not be stored. -/
  | unsaved (found : Option Object) (previous : Credential) (t u : List Event) (session : Session)
    (e : Failure) (held : heldPassword? found = some previous.encoded)
    (rotated : (Bootstrap.rotatePassword url user.email previous.decode
      user.password.decode).Yields t session)
    (synced : (target.syncObject (credentialsOf target user)).Fails u e) :
    Rotates target url user (.error e)
      (⟨.get (credentialsAddress target.namespaceName), .ok found⟩ :: (t ++ u))
  /-- The new credentials were stored; pods are replaced next if there are any. -/
  | saved (found : Option Object) (previous : Credential) (t u v : List Event) (session : Session)
    (r : SyncResult) (ending : Except Failure Session)
    (held : heldPassword? found = some previous.encoded)
    (rotated : (Bootstrap.rotatePassword url user.email previous.decode
      user.password.decode).Yields t session)
    (synced : (target.syncObject (credentialsOf target user)).Yields u r)
    (pods : ReplacesPods target.namespaceName v) (opened : ∀ s, ending = .ok s → s = session) :
    Rotates target url user ending
      (⟨.get (credentialsAddress target.namespaceName), .ok found⟩ :: (t ++ (u ++ v)))

theorem plays_rotatePassword {r : Except Failure Session}
    (h : (rotatePassword target url user).run.Plays t r) : Rotates target url user r t := by
  rcases Attempt.plays_bind h with ⟨e, unread, rfl⟩ | ⟨t₁, previous, t₂, rfl, read, rest⟩
  · obtain ⟨r, rfl, unreadable, told⟩ := fails_storedPassword unread
    exact .unread r e unreadable told
  obtain ⟨found, rfl, held⟩ := yields_storedPassword read
  rcases Attempt.plays_bind rest with ⟨e, refused, rfl⟩ | ⟨t₃, session, t₄, rfl, rotated, rest⟩
  · exact .refused found previous t₂ e held refused
  rcases Attempt.plays_bind rest with ⟨e, unsaved, rfl⟩ | ⟨t₅, result, t₆, rfl, synced, rest⟩
  · exact .unsaved found previous t₃ t₄ session e held rotated unsaved
  rcases Attempt.plays_bind rest with ⟨e, look, rfl⟩ | ⟨t₇, pods, t₈, rfl, look, last⟩
  · rw [Attempt.fails_get.1 look]
    exact .saved found previous t₃ t₅ _ session result _ held rotated synced (.look _) nofun
  obtain rfl := Attempt.yields_get.1 look
  -- Nothing but the session that was opened is handed on.
  have opened {u : List Event} (done : (pure session : Attempt Session).run.Plays u r) :
      u = [] ∧ ∀ s, r = .ok s → s = session := by
    obtain ⟨rfl, rfl⟩ := Program.plays_pure.1 done
    exact ⟨rfl, fun s same => (Except.ok.inj same).symm⟩
  cases pods with
  | none =>
    obtain ⟨rfl, same⟩ := opened last
    exact .saved found previous t₃ t₅ _ session result r held rotated synced (.look _) same
  | some o =>
    rcases Attempt.plays_bind last with ⟨e, restart, rfl⟩ | ⟨t₉, u, t₁₀, rfl, restart, done⟩
    · rw [Attempt.fails_restart.1 restart]
      exact .saved found previous t₃ t₅ _ session result _ held rotated synced (.replace o _) nofun
    · obtain rfl := Attempt.yields_restart.1 restart
      obtain ⟨rfl, same⟩ := opened done
      exact .saved found previous t₃ t₅ _ session result r held rotated synced (.replace o _) same

/-- A session is opened by a login of the declared user, or by a change of the password after the
interface said that the declared one is wrong. -/
theorem plays_openSession {r : Except Failure Session}
    (h : (openSession target url user).run.Plays t r) :
    (∃ s, (Bootstrap.ensureUser url user).Yields t s ∧ r = .ok s) ∨
      (∃ e, (Bootstrap.ensureUser url user).Fails t e ∧ r = .error e ∧
        e.isInvalidCredentials = false) ∨
      ∃ t₁ e t₂, t = t₁ ++ t₂ ∧ (Bootstrap.ensureUser url user).Fails t₁ e ∧
        e.isInvalidCredentials ∧ Rotates target url user r t₂ := by
  have remedy {t : List Event} {e : Failure}
      (h : (if e.isInvalidCredentials then rotatePassword target url user
        else throw e : Attempt Session).run.Plays t r) :
      e.isInvalidCredentials ∧ (rotatePassword target url user).run.Plays t r ∨
        t = [] ∧ r = .error e ∧ e.isInvalidCredentials = false := by
    split at h
    · rename_i invalid
      exact .inl ⟨invalid, h⟩
    · rename_i valid
      have other := Bool.eq_false_iff.2 valid
      cases r with
      | ok s => exact (Attempt.yields_throw.1 h).elim
      | error e' =>
        obtain ⟨rfl, rfl⟩ := Attempt.fails_throw.1 h
        exact .inr ⟨rfl, rfl, other⟩
  have other {t₁ t₂ : List Event} {e : Failure} (failed : (Bootstrap.ensureUser url user).Fails t₁ e)
      (h : (if e.isInvalidCredentials then rotatePassword target url user
        else throw e : Attempt Session).run.Plays t₂ r) :
      (∃ e, (Bootstrap.ensureUser url user).Fails (t₁ ++ t₂) e ∧ r = .error e ∧
          e.isInvalidCredentials = false) ∨
        ∃ u₁ e u₂, t₁ ++ t₂ = u₁ ++ u₂ ∧ (Bootstrap.ensureUser url user).Fails u₁ e ∧
          e.isInvalidCredentials ∧ Rotates target url user r u₂ := by
    rcases remedy h with ⟨invalid, h⟩ | ⟨rfl, rfl, valid⟩
    · exact .inr ⟨t₁, e, t₂, rfl, failed, invalid, plays_rotatePassword h⟩
    · exact .inl ⟨e, by rwa [List.append_nil], rfl, valid⟩
  cases r with
  | ok s =>
    rcases Attempt.yields_tryCatch.1 h with h | ⟨t₁, e, t₂, rfl, failed, h⟩
    · exact .inl ⟨s, h, rfl⟩
    · exact .inr (other failed h)
  | error e =>
    obtain ⟨t₁, e', t₂, rfl, failed, h⟩ := Attempt.fails_tryCatch.1 h
    exact .inr (other failed h)

/-- A change of the password that is saved stores the declared credentials, and nothing else. -/
theorem stored_saved (found : Option Object) {previous : Credential} {u v w : List Event}
    {r : SyncResult} (rotated : (Bootstrap.rotatePassword url user.email previous.decode
      user.password.decode).Yields u session)
    (synced : (target.syncObject (credentialsOf target user)).Yields v r)
    (pods : ReplacesPods target.namespaceName w) :
    stored (⟨.get (credentialsAddress target.namespaceName), .ok found⟩ :: (u ++ (v ++ w))) =
      [(credentialsOf target user).ownedBy target.owner] := by
  have look (t : List Event) :
      stored (⟨.get (credentialsAddress target.namespaceName), .ok found⟩ :: t) = stored t := rfl
  rw [look, stored_append, stored_append, stored_sync synced, stored_of_idle pods.idle,
    stored_of_account (Program.Plays.only rotated (rotatePassword_reach ..))]
  rfl

/-- A session that is open was opened by a login of the declared user, after which the interface is
left alone, and at most the credentials of the port manager were stored. -/
theorem yields_openSession (h : (openSession target url user).Yields t session) :
    ∃ t₁ answer t₂, t = t₁ ++ ⟨.logIn url (Bootstrap.logInOf user), .ok answer⟩ :: t₂ ∧
      (∀ e ∈ t₂, ∀ u, e.call.isAccountAt u = false) ∧
      (stored t = [] ∨ stored t = [(credentialsOf target user).ownedBy target.owner]) := by
  rcases plays_openSession h with
    ⟨s, ensured, -⟩ | ⟨e, -, ⟨⟩, -⟩ | ⟨t₁, e, t₂, rfl, failed, -, rotates⟩
  · obtain ⟨r, answer, rfl, -⟩ := Bootstrap.yields_ensureUser ensured
    exact ⟨[⟨.signUp url (Bootstrap.signUpOf user), r⟩], answer, [], rfl, by simp, .inl rfl⟩
  cases rotates with
  | saved found previous t u v s r _ held rotated synced pods =>
    have once := stored_saved found rotated synced pods
    obtain ⟨first, answer, rfl, -⟩ := Bootstrap.yields_rotatePassword rotated
    refine ⟨t₁ ++ (⟨.get (credentialsAddress target.namespaceName), .ok found⟩ ::
      ⟨.logIn url ⟨user.email, previous.decode⟩, .ok first⟩ ::
        Bootstrap.changeOf url first.accessToken previous.decode user.password.decode (.ok ())),
      answer, u ++ v, ?_, ?_, .inr ?_⟩
    · simp [Bootstrap.logInOf]
    · intro e he url
      rcases List.mem_append.1 he with he | he
      · exact not_account_of_sync synced url e he
      · exact (pods.idle e he).2 url
    · rw [stored_append, once, stored_of_account (Program.Plays.only failed (ensureUser_reach ..))]
      rfl

end Reconcile

end EdgePlane
