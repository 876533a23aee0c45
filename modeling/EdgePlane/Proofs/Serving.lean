import EdgePlane.Proofs.Scene

/-!
# Interfaces that serve

A management interface serves if it accepts connections and answers questions for its status and wishes
to register. Talking to one keeps it so. There the declared user gets a session if it is not known yet,
has the declared password, or has the password that the port manager holds and is to have one that is not
empty.
-/

namespace EdgePlane

open Kubernetes Management Simulation

namespace Simulation

/-- Whether an interface accepts connections and answers as it should. -/
structure ApiServer.Serves (s : ApiServer) : Prop where
  accepts : s.refusals = some 0
  reports : s.statusBroken = false
  registers : s.signUpBroken = false

namespace ApiServer

variable {s : ApiServer} {url email password : String}

theorem isAccountExists_accountExists : accountExists.isAccountExists = true := by decide +kernel

theorem isInvalidCredentials_invalidCredentials :
    (Failure.api (invalidCredentials 401)).isInvalidCredentials = true := by decide +kernel

theorem users_status (s : ApiServer) (url : String) : (s.status url).2.users = s.users := by
  unfold status
  dsimp only
  split <;> rfl

theorem Serves.status (h : s.Serves) (url : String) :
    ∃ report s', s.status url = (.ok report, s') ∧ s'.Serves :=
  ⟨⟨"online", none, none⟩, { s with statusCalls := s.statusCalls + 1 },
    by simp [ApiServer.status, h.accepts, report, h.reports], ⟨h.accepts, h.reports, h.registers⟩⟩

theorem Serves.signUp_of_unknown (h : s.Serves) (url : String) (request : SignUp)
    (unknown : s.users.get? request.email = none) :
    ∃ s', s.signUp url request = (.ok (), s') ∧ s'.Serves ∧
      s'.users = s.users.insert request.email request.password :=
  ⟨({ s with signUpCalls := s.signUpCalls + 1 } : ApiServer).addUser request.email request.password,
    by simp [signUp, h.registers, Dict.contains, unknown], ⟨h.accepts, h.reports, h.registers⟩, rfl⟩

theorem Serves.signUp_of_known (h : s.Serves) (url : String) (request : SignUp)
    (known : s.users.get? request.email = some password) :
    ∃ s', s.signUp url request = (.error accountExists, s') ∧ s'.Serves ∧ s'.users = s.users :=
  ⟨{ s with signUpCalls := s.signUpCalls + 1 }, by simp [signUp, h.registers, Dict.contains, known],
    ⟨h.accepts, h.reports, h.registers⟩, rfl⟩

theorem Serves.logIn (h : s.Serves) (right : s.users.get? email = some password) :
    ∃ token s', s.logIn ⟨email, password⟩ = (.ok ⟨token⟩, s') ∧ s'.Serves ∧ s'.users = s.users ∧
      s'.tokens.get? token = some email := by
  rw [ApiServer.logIn, if_pos right]
  exact ⟨_, _, rfl, ⟨h.accepts, h.reports, h.registers⟩, rfl, Dict.get?_insert_self ..⟩

theorem Serves.logIn_of_wrong (h : s.Serves) (wrong : s.users.get? email ≠ some password) :
    ∃ s', s.logIn ⟨email, password⟩ = (.error (invalidCredentials 401), s') ∧ s'.Serves ∧
      s'.users = s.users :=
  ⟨{ s with logInCalls := s.logInCalls + 1 }, by simp [ApiServer.logIn, wrong],
    ⟨h.accepts, h.reports, h.registers⟩, rfl⟩

theorem Serves.changePassword (h : s.Serves) {token : String} (new : String)
    (holder : s.tokens.get? token = some email) (right : s.users.get? email = some password) :
    ∃ s', s.changePassword token ⟨password, new⟩ = (.ok (), s') ∧ s'.Serves ∧
      s'.users = s.users.insert email new :=
  ⟨s.addUser email new, by simp [ApiServer.changePassword, holder, right],
    ⟨h.accepts, h.reports, h.registers⟩, rfl⟩

theorem Serves.putRouter (h : s.Serves) {token : String} (router : DefaultRouter)
    (holder : s.tokens.get? token = some email) :
    ∃ s', s.putRouter token router = (.ok (), s') ∧ s'.Serves ∧ s'.users = s.users :=
  ⟨{ s with router := some router }, by simp [ApiServer.putRouter, holder],
    ⟨h.accepts, h.reports, h.registers⟩, rfl⟩

end ApiServer

namespace Scene

/-- Whether two scenes differ in the interface at a URL alone, which still serves if it did. -/
structure Talked (url : String) (s s' : Scene) : Prop where
  rest : s' = s.setApi url (s'.apis url)
  serves : (s.apis url).Serves → (s'.apis url).Serves

variable {s s' s'' : Scene} {url : String} {api : ApiServer}

theorem talked_setApi (h : (s.apis url).Serves → api.Serves) : s.Talked url (s.setApi url api) :=
  ⟨by rw [apis_setApi_self], by rwa [apis_setApi_self]⟩

namespace Talked

theorem trans (h : s.Talked url s') (h' : s'.Talked url s'') : s.Talked url s'' where
  rest := calc
    s'' = s'.setApi url (s''.apis url) := h'.rest
    _ = (s.setApi url (s'.apis url)).setApi url (s''.apis url) := by rw [← h.rest]
    _ = s.setApi url (s''.apis url) := setApi_setApi _
  serves := h'.serves ∘ h.serves

theorem objects (h : s.Talked url s') : s'.objects = s.objects := by
  rw [h.rest]
  rfl

theorem declared (h : s.Talked url s') : s'.declared = s.declared := by
  rw [h.rest]
  rfl

theorem apis_of_ne (h : s.Talked url s') {u : String} (other : u ≠ url) : s'.apis u = s.apis u := by
  rw [h.rest]
  exact Function.update_of_ne other ..

theorem serves_all (h : s.Talked url s') (u : String) (served : (s.apis u).Serves) :
    (s'.apis u).Serves := by
  by_cases here : u = url
  · subst here
    exact h.serves served
  · rwa [h.apis_of_ne here]

end Talked

end Scene

end Simulation

/-- What an interface answers to a call, and the scene after that. -/
theorem Program.finishes_ask {c : Call} {url : String} {s : Scene} {r : c.Reply} {api : ApiServer}
    (f : ApiServer → c.Reply × ApiServer) (awake : c.isSleep = false)
    (answers : ∀ r s', s.Answers c r s' → r = (f (s.apis url)).1 ∧
      s' = s.setApi url (f (s.apis url)).2) (h : f (s.apis url) = (r, api)) :
    (Program.perform c).Finishes (fun r' s' => r' = r ∧ s' = s.setApi url api) s := by
  refine .perform awake fun r' s' answered => ?_
  have := answers r' s' answered
  rwa [h] at this

namespace Bootstrap

variable {s : Scene} {url email password : String} {user : ControlPlane.User}

/-- An interface that serves is available. Where a single attempt is made, it may be any interface. -/
theorem finishes_poll {limit : RetryLimit} {n : Nat} (h : (s.apis url).Serves ∨ n = 0) :
    (poll url limit (n + 1)).Finishes (fun r s' => s.Talked url s' ∧
      (s'.apis url).users = (s.apis url).users ∧ ((s.apis url).Serves → r = .ok ())) s := by
  cases reply : (s.apis url).status url with
  | mk answer api =>
  have users : api.users = (s.apis url).users := by
    have := ApiServer.users_status (s.apis url) url
    rwa [reply] at this
  have talked : s.Talked url (s.setApi url api) := Scene.talked_setApi fun serves => by
    obtain ⟨report, api', done, serves'⟩ := serves.status url
    rw [reply] at done
    cases done
    exact serves'
  have asked := Program.finishes_ask (c := .status url) (·.status url) rfl
    (fun _ _ => Scene.answers_status) reply
  refine (Attempt.succeeds_ofProgram asked).bind ?_
  rintro answer _ ⟨rfl, rfl⟩
  cases answer with
  | ok report => exact .pure ⟨talked, by rw [Scene.apis_setApi_self, users], fun _ => rfl⟩
  | error e =>
    have broken : ¬ (s.apis url).Serves := fun serves => by
      obtain ⟨report, api', done, -⟩ := serves.status url
      rw [reply] at done
      cases done
    obtain rfl := h.resolve_left broken
    have post (e : Failure) : s.Talked url (s.setApi url api) ∧
        ((s.setApi url api).apis url).users = (s.apis url).users ∧
        ((s.apis url).Serves → Except.error e = .ok ()) :=
      ⟨talked, by rw [Scene.apis_setApi_self, users], fun serves => absurd serves broken⟩
    dsimp only
    split
    · exact .throw (post _)
    · exact .throw (post _)

/-- Whether a session is that of a user with a password. -/
structure LoggedIn (url email password : String) (session : Session) (s : Scene) : Prop where
  known : (s.apis url).users.get? email = some password
  token : (s.apis url).tokens.get? session.token = some email

theorem succeeds_logIn (serves : (s.apis url).Serves)
    (right : (s.apis url).users.get? email = some password) :
    (logIn url email password).Succeeds
      (fun session s' => s.Talked url s' ∧ LoggedIn url email password session s') s := by
  obtain ⟨token, api, done, serves', users, holder⟩ := serves.logIn right
  have asked := Program.finishes_ask (c := .logIn url _) (·.logIn _) rfl
    (fun _ _ => Scene.answers_logIn) done
  refine (Attempt.finishes_viaApi asked).bind ?_ ?_
  · rintro answer _ ⟨_, h, rfl, rfl⟩
    cases h
    exact .pure ⟨_, rfl, Scene.talked_setApi fun _ => serves',
      by rw [Scene.apis_setApi_self, users, right], by rw [Scene.apis_setApi_self, holder]⟩
  · rintro e _ ⟨_, h, rfl, -⟩
    cases h

theorem finishes_logIn_of_wrong (serves : (s.apis url).Serves)
    (wrong : (s.apis url).users.get? email ≠ some password) :
    (logIn url email password).Finishes (fun r s' =>
      r = .error (.api (ApiServer.invalidCredentials 401)) ∧ s.Talked url s' ∧
        (s'.apis url).users = (s.apis url).users) s := by
  obtain ⟨api, done, serves', users⟩ := serves.logIn_of_wrong wrong
  have asked := Program.finishes_ask (c := .logIn url _) (·.logIn _) rfl
    (fun _ _ => Scene.answers_logIn) done
  refine (Attempt.finishes_viaApi asked).bind ?_ ?_
  · rintro answer _ ⟨_, h, rfl, -⟩
    cases h
  · rintro e _ ⟨_, h, rfl, rfl⟩
    cases h
    exact ⟨rfl, Scene.talked_setApi fun _ => serves', by rw [Scene.apis_setApi_self, users]⟩

/-- A user who is known already is only logged in. -/
theorem finishes_ensureUser_of_known {Q : Except Failure Session → Scene → Prop} {p : String}
    (serves : (s.apis url).Serves) (found : (s.apis url).users.get? user.email = some p)
    (login : ∀ s', s.Talked url s' → (s'.apis url).users = (s.apis url).users →
      (logIn url user.email user.password.decode).Finishes Q s') :
    (ensureUser url user).Finishes Q s := by
  obtain ⟨api, done, serves', users⟩ := serves.signUp_of_known url
    ⟨user.name, user.surname, user.email, user.password.decode⟩ found
  have asked := Program.finishes_ask (c := .signUp url _) (·.signUp url _) rfl
    (fun _ _ => Scene.answers_signUp) done
  refine (Attempt.succeeds_ofProgram asked).bind ?_
  rintro _ _ ⟨rfl, rfl⟩
  dsimp only
  rw [if_pos ApiServer.isAccountExists_accountExists]
  exact login _ (Scene.talked_setApi fun _ => serves') (by rw [Scene.apis_setApi_self, users])

/-- A user who is not known yet or has the declared password gets a session. -/
theorem succeeds_ensureUser (serves : (s.apis url).Serves)
    (fits : ∀ p, (s.apis url).users.get? user.email = some p → p = user.password.decode) :
    (ensureUser url user).Succeeds
      (fun session s' => s.Talked url s' ∧
        LoggedIn url user.email user.password.decode session s') s := by
  cases found : (s.apis url).users.get? user.email with
  | none =>
    obtain ⟨api, done, serves', users⟩ := serves.signUp_of_unknown url
      ⟨user.name, user.surname, user.email, user.password.decode⟩ found
    have asked := Program.finishes_ask (c := .signUp url _) (·.signUp url _) rfl
      (fun _ _ => Scene.answers_signUp) done
    refine (Attempt.succeeds_ofProgram asked).bind ?_
    rintro _ _ ⟨rfl, rfl⟩
    have talked : s.Talked url (s.setApi url api) := Scene.talked_setApi fun _ => serves'
    refine (succeeds_logIn (talked.serves serves) ?_).mono fun session s' h => ⟨talked.trans h.1, h.2⟩
    rw [Scene.apis_setApi_self, users, Dict.get?_insert_self]
  | some p =>
    obtain rfl := fits p found
    refine finishes_ensureUser_of_known serves found fun s' talked users => ?_
    exact (succeeds_logIn (talked.serves serves) (by rw [users, found])).mono fun session _ h =>
      ⟨talked.trans h.1, h.2⟩

/-- A user with another password is refused. -/
theorem finishes_ensureUser_of_wrong (serves : (s.apis url).Serves) {p : String}
    (found : (s.apis url).users.get? user.email = some p) (wrong : p ≠ user.password.decode) :
    (ensureUser url user).Finishes (fun r s' =>
      r = .error (.api (ApiServer.invalidCredentials 401)) ∧ s.Talked url s' ∧
        (s'.apis url).users = (s.apis url).users) s := by
  refine finishes_ensureUser_of_known serves found fun s' talked users => ?_
  have other : (s'.apis url).users.get? user.email ≠ some user.password.decode := by
    rw [users, found]
    exact fun h => wrong (Option.some.inj h)
  exact (finishes_logIn_of_wrong (talked.serves serves) other).mono fun r _ h =>
    ⟨h.1, talked.trans h.2.1, h.2.2.trans users⟩

theorem succeeds_changePassword {old new : String} {session : Session} (serves : (s.apis url).Serves)
    (login : LoggedIn url email old session s) (notEmpty : new ≠ "") (other : new ≠ old) :
    (changePassword url session old new).Succeeds (fun _ s' => s.Talked url s' ∧
      (s'.apis url).users.get? email = some new) s := by
  obtain ⟨api, done, serves', users⟩ := serves.changePassword new login.token login.known
  have asked := Program.finishes_ask (c := .changePassword url session.token ⟨old, new⟩)
    (·.changePassword session.token ⟨old, new⟩) rfl (fun _ _ => Scene.answers_changePassword) done
  have changes : (!new.isEmpty && new ≠ old) = true := by simp [notEmpty, other]
  rw [changePassword, if_pos changes]
  refine (Attempt.finishes_viaApi asked).mono ?_
  rintro _ _ ⟨_, rfl, rfl, rfl⟩
  refine ⟨(), rfl, Scene.talked_setApi fun _ => serves', ?_⟩
  rw [Scene.apis_setApi_self, users, Dict.get?_insert_self]

/-- Moving a user from the password it has to another one. -/
theorem succeeds_rotatePassword {old new : String} (serves : (s.apis url).Serves)
    (found : (s.apis url).users.get? email = some old) (notEmpty : new ≠ "") (other : new ≠ old) :
    (rotatePassword url email old new).Succeeds
      (fun session s' => s.Talked url s' ∧ LoggedIn url email new session s') s := by
  refine (succeeds_logIn serves found).bind fun first s₁ ⟨talked₁, login⟩ => ?_
  refine (succeeds_changePassword (talked₁.serves serves) login notEmpty other).bind
    fun _ s₂ ⟨talked₂, known⟩ => ?_
  have talked := talked₁.trans talked₂
  exact (succeeds_logIn (talked.serves serves) known).mono fun _ _ h => ⟨talked.trans h.1, h.2⟩

theorem succeeds_registerRouter {session : Session} {password : String} (serves : (s.apis url).Serves)
    (login : LoggedIn url email password session s) (router : DefaultRouter) :
    (registerRouter url session router).Succeeds (fun _ s' => s.Talked url s' ∧
      (s'.apis url).users = (s.apis url).users) s := by
  obtain ⟨api, done, serves', users⟩ := serves.putRouter router login.token
  have asked := Program.finishes_ask (c := .putRouter url session.token router)
    (·.putRouter session.token router) rfl (fun _ _ => Scene.answers_putRouter) done
  refine (Attempt.finishes_viaApi asked).mono ?_
  rintro _ _ ⟨_, rfl, rfl, rfl⟩
  exact ⟨(), rfl, Scene.talked_setApi fun _ => serves', by rw [Scene.apis_setApi_self, users]⟩

end Bootstrap

namespace Reconcile

open Bootstrap

/-- Whether a session for the declared user can be opened where certain users are known: the user is not
known, has the declared password, or has the one that the port manager holds while the declared one is not
empty. -/
inductive Welcomes (user : ControlPlane.User) (held : Option Object) (users : Dict String String) : Prop
  | unknown (absent : users.get? user.email = none)
  | declared (known : users.get? user.email = some user.password.decode)
  | held (encoded : String) (stored : heldPassword? held = some encoded)
    (known : users.get? user.email = some (Credential.decode ⟨encoded⟩))
    (notEmpty : user.password.decode ≠ "")

variable {s : Scene} {target : Target} {url : String} {user : ControlPlane.User}

theorem succeeds_storedPassword {ns email encoded : String}
    (stored : heldPassword? (s.objects (credentialsAddress ns)) = some encoded) :
    (storedPassword ns email).Succeeds (fun previous s' => previous = ⟨encoded⟩ ∧ s' = s) s := by
  obtain ⟨secret, found, text⟩ := Option.bind_eq_some_iff.1 stored
  refine Attempt.succeeds_getSecret.bind ?_
  rintro _ s ⟨rfl, rfl⟩
  change (s.objects ⟨.secret, ns, PortManager.credentialsSecretName⟩).bind (·.secret?) = some secret
    at found
  simp only [found, text]
  exact .pure ⟨_, rfl, rfl, rfl⟩

/-- The scene after the credentials of the port manager were replaced by the declared ones. -/
def recredentialed (target : Target) (user : ControlPlane.User) (s : Scene) : Scene :=
  s.put (credentialsAddress target.namespaceName) ((credentialsOf target user).ownedBy target.owner)

/-- What is left when a session for the declared user was opened. If that took a change of the password,
the declared credentials have been passed on to the port manager. -/
def Opened (target : Target) (url : String) (user : ControlPlane.User) (s : Scene) (session : Session)
    (s' : Scene) : Prop :=
  ∃ s₁, s.Talked url s₁ ∧ LoggedIn url user.email user.password.decode session s₁ ∧
    (s' = s₁ ∨ s' = recredentialed target user s₁)

theorem Opened.after {s s₁ s' : Scene} {session : Session} (talked : s.Talked url s₁)
    (h : Opened target url user s₁ session s') : Opened target url user s session s' :=
  let ⟨s₂, talked₂, rest⟩ := h
  ⟨s₂, talked.trans talked₂, rest⟩

theorem succeeds_rotatePassword {encoded : String} (serves : (s.apis url).Serves)
    (stored : heldPassword? (s.objects (credentialsAddress target.namespaceName)) = some encoded)
    (known : (s.apis url).users.get? user.email = some (Credential.decode ⟨encoded⟩))
    (notEmpty : user.password.decode ≠ "")
    (other : user.password.decode ≠ Credential.decode ⟨encoded⟩) :
    (rotatePassword target url user).Succeeds (Opened target url user s) s := by
  refine (succeeds_storedPassword stored).bind ?_
  rintro _ s ⟨rfl, rfl⟩
  refine (Bootstrap.succeeds_rotatePassword serves known notEmpty other).bind
    fun session s₁ ⟨talked, login⟩ => ?_
  have stores : (target.syncObject (credentialsOf target user)).Succeeds
      (fun _ s' => s' = recredentialed target user s₁) s₁ :=
    Attempt.succeeds_sync_apply.mono fun _ _ h =>
      h.2.trans (congrArg _ (Object.keepingStatus_secret _ _))
  refine stores.bind ?_
  rintro _ _ rfl
  refine Attempt.succeeds_get.bind ?_
  rintro _ _ ⟨rfl, rfl⟩
  split
  · rename_i there
    refine (Attempt.succeeds_restart there).bind ?_
    rintro _ _ rfl
    exact .pure ⟨_, rfl, s₁, talked, login, .inr rfl⟩
  · exact .pure ⟨_, rfl, s₁, talked, login, .inr rfl⟩

/-- A session for the declared user can be opened. -/
theorem succeeds_openSession (serves : (s.apis url).Serves)
    (welcomes : Welcomes user (s.objects (credentialsAddress target.namespaceName))
      (s.apis url).users) :
    (openSession target url user).Succeeds (Opened target url user s) s := by
  have direct (fits : ∀ p, (s.apis url).users.get? user.email = some p → p = user.password.decode) :
      (openSession target url user).Succeeds (Opened target url user s) s := by
    refine Attempt.Finishes.tryCatch (succeeds_ensureUser serves fits) ?_ ?_
    · rintro session s' ⟨_, ⟨⟩, talked, login⟩
      exact ⟨session, rfl, s', talked, login, .inl rfl⟩
    · rintro e s' ⟨_, ⟨⟩, -⟩
  cases welcomes with
  | unknown absent =>
    refine direct fun p found => ?_
    rw [absent] at found
    cases found
  | declared known =>
    exact direct fun p found => Option.some.inj (found.symm.trans known)
  | held encoded stored known notEmpty =>
    by_cases same : user.password.decode = Credential.decode ⟨encoded⟩
    · exact direct fun p found => (Option.some.inj (found.symm.trans known)).trans same.symm
    · refine Attempt.Finishes.tryCatch
        (finishes_ensureUser_of_wrong serves known (Ne.symm same)) ?_ ?_
      · rintro session s' ⟨⟨⟩, -⟩
      · rintro e s₁ ⟨refused, talked, users⟩
        cases refused
        rw [if_pos ApiServer.isInvalidCredentials_invalidCredentials]
        exact (succeeds_rotatePassword (talked.serves serves) (by rwa [talked.objects])
          (by rw [users, known]) notEmpty same).mono fun _ _ opened => opened.after talked

end Reconcile

end EdgePlane
