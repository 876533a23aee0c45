import EdgePlane.Proofs.Standstill

/-!
# Provisioning users

Registering a user and changing a password take up to three calls, and each of them may change the users of
the interface or its tokens. Still a user is provisioned entirely or not at all: either the user has the
wanted password afterwards, everyone else has the password from before, and the session is that user's; or
all passwords are what they were, and the error reads as a wrong password.

This holds whatever users, passwords and tokens there are. A token that a login hands out may have belonged
to someone else before.
-/

namespace EdgePlane

open Management Simulation

namespace Simulation

namespace ApiServer

variable (s : ApiServer)

/-- Storing a password changes that of one user. -/
theorem get?_addUser (email password : String) :
    (s.addUser email password).users.get? = Function.update s.users.get? email (some password) := by
  funext other
  rw [addUser, Dict.get?_insert, Function.update_apply]

/-- A registration goes through where nobody of that name is known. -/
theorem signUp_cases {s : ApiServer} (registers : s.signUpBroken = false) (url : String)
    (request : SignUp) :
    (s.users.get? request.email = none ∧ (s.signUp url request).1 = .ok () ∧
      (s.signUp url request).2.users.get? =
        Function.update s.users.get? request.email (some request.password)) ∨
    ((∃ password, s.users.get? request.email = some password) ∧
      (s.signUp url request).1 = .error accountExists ∧ (s.signUp url request).2.users = s.users) := by
  cases known : s.users.get? request.email with
  | none =>
    refine .inl ⟨rfl, ?_⟩
    simp only [signUp, registers, Dict.contains, known]
    exact ⟨rfl, get?_addUser ..⟩
  | some password =>
    refine .inr ⟨⟨password, rfl⟩, ?_⟩
    simp only [signUp, registers, Dict.contains, known]
    exact ⟨rfl, rfl⟩

/-- A login goes through with the right password, and no password changes. -/
theorem logIn_cases (request : LogIn) : (s.logIn request).2.users = s.users ∧
    ((s.users.get? request.email = some request.password ∧ ∃ token, (s.logIn request).1 = .ok ⟨token⟩ ∧
        (s.logIn request).2.tokens.get? token = some request.email) ∨
      (s.users.get? request.email ≠ some request.password ∧
        (s.logIn request).1 = .error (invalidCredentials 401))) := by
  by_cases right : s.users.get? request.email = some request.password
  · rw [logIn, if_pos right]
    exact ⟨rfl, .inl ⟨right, _, rfl, Dict.get?_insert_self ..⟩⟩
  · rw [logIn, if_neg right]
    exact ⟨rfl, .inr ⟨right, rfl⟩⟩

/-- The holder of a token may change the password. -/
theorem changePassword_of_holder {s : ApiServer} {token email old : String}
    (holder : s.tokens.get? token = some email) (right : s.users.get? email = some old) (new : String) :
    (s.changePassword token ⟨old, new⟩).1 = .ok () ∧
      (s.changePassword token ⟨old, new⟩).2.users.get? =
        Function.update s.users.get? email (some new) := by
  simp only [changePassword, holder, right]
  exact ⟨rfl, get?_addUser ..⟩

theorem signUpBroken_signUp (url : String) (request : SignUp) :
    (s.signUp url request).2.signUpBroken = s.signUpBroken := by
  unfold signUp
  dsimp only
  split
  · rfl
  · split <;> rfl

theorem signUpBroken_logIn (request : LogIn) : (s.logIn request).2.signUpBroken = s.signUpBroken := by
  unfold logIn
  dsimp only
  split <;> rfl

theorem signUpBroken_changePassword (token : String) (request : PasswordChange) :
    (s.changePassword token request).2.signUpBroken = s.signUpBroken := by
  unfold changePassword
  split
  · rfl
  · split <;> rfl

end ApiServer

/-- Whether a world has come of the world `w` by talk with the interface at a URL alone, and each user has
the password there that `known` tells. -/
structure World.Holding (w : World) (url : String) (known : String → Option String) (v : World) : Prop where
  faults : v.faults = []
  cluster : v.cluster = w.cluster
  others : ∀ u, u ≠ url → v.api u = w.api u
  registers : (v.api url).signUpBroken = (w.api url).signUpBroken
  users : (v.api url).users.get? = known

namespace World.Holding

variable {w v : World} {url : String} {known : String → Option String}

theorem refl (faults : w.faults = []) (url : String) : w.Holding url (w.api url).users.get? w :=
  ⟨faults, rfl, fun _ _ => rfl, rfl, rfl⟩

/-- The interface answers for itself, and all else stays as it is. -/
theorem ask {α : Type} (h : w.Holding url known v) (c : Call)
    (f : ApiServer → Except ApiError α × ApiServer)
    (registers : (f (v.api url)).2.signUpBroken = (v.api url).signUpBroken) :
    (v.askApi c url f).1 = (f (v.api url)).1 ∧ (v.askApi c url f).2.api url = (f (v.api url)).2 ∧
      w.Holding url (f (v.api url)).2.users.get? (v.askApi c url f).2 := by
  obtain ⟨reply, apis⟩ := askApi_of_reliable h.faults c url f
  obtain ⟨cluster, faults, -⟩ := askApi_cases v c url f
  have here : (v.askApi c url f).2.api url = (f (v.api url)).2 := by rw [apis, if_pos rfl]
  refine ⟨reply, here, faults h.faults, cluster.trans h.cluster, fun u other => ?_, ?_, by rw [here]⟩
  · rw [apis, if_neg other, h.others u other]
  · rw [here, registers, h.registers]

end World.Holding

end Simulation

namespace Bootstrap

/-- How a login ends: with a token of the user if the password is right, else with an error that says that
it is wrong. -/
inductive LogsIn (url email : String) (right : Prop) (v : World) : Except Failure Session → Prop
  | accepted (h : right) (token : String) (holder : (v.api url).tokens.get? token = some email) :
    LogsIn url email right v (.ok ⟨url, token⟩)
  | refused (h : ¬ right) : LogsIn url email right v (.error (.api (ApiServer.invalidCredentials 401)))

/-- How the provisioning of a user with a password ends: all of it is done, exactly if it is acceptable, or
nothing is. -/
structure Provisions (w : World) (url email password : String) (acceptable : Prop)
    (r : Except Failure Session) (v : World) : Prop where
  succeeds : (∃ session, r = .ok session) ↔ acceptable
  done : ∀ session, r = .ok session → session.baseUrl = url ∧
    (v.api url).tokens.get? session.token = some email ∧
    (v.api url).users.get? = Function.update (w.api url).users.get? email (some password)
  refused : ∀ e, r = .error e → e.isInvalidCredentials ∧
    (v.api url).users.get? = (w.api url).users.get?
  cluster : v.cluster = w.cluster
  others : ∀ u, u ≠ url → v.api u = w.api u

variable {w v : World} {url email password old new : String} {known : String → Option String}

theorem finishes_logIn_here (h : w.Holding url known v) : (logIn url email password).Finishes
    (fun r v' => w.Holding url known v' ∧ LogsIn url email (known email = some password) v' r) v := by
  obtain ⟨reply, here, holding⟩ := h.ask (.logIn url ⟨email, password⟩) (·.logIn ⟨email, password⟩)
    (ApiServer.signUpBroken_logIn _ _)
  obtain ⟨users, cases⟩ := (v.api url).logIn_cases ⟨email, password⟩
  rw [users, h.users] at holding
  rw [← here, ← reply, h.users] at cases
  have asked : (Program.perform (.logIn url ⟨email, password⟩)).Finishes (fun r v' =>
      w.Holding url known v' ∧
        ((known email = some password ∧ ∃ token, r = .ok ⟨token⟩ ∧
            (v'.api url).tokens.get? token = some email) ∨
          (known email ≠ some password ∧ r = .error (ApiServer.invalidCredentials 401)))) v :=
    Program.finishes_perform_here rfl ⟨holding, cases⟩
  refine (Attempt.finishes_viaApi asked).bind ?_ ?_
  · rintro answer v' ⟨_, h, holding, ⟨right, token, rfl, holder⟩ | ⟨-, rfl⟩⟩
    · cases h
      exact .pure ⟨holding, .accepted right token holder⟩
    · cases h
  · rintro e v' ⟨_, h, holding, ⟨-, token, rfl, -⟩ | ⟨wrong, rfl⟩⟩
    · cases h
    · cases h
      exact ⟨holding, .refused wrong⟩

/-- A user who has logged in gets the new password, unless it is empty. -/
theorem succeeds_changePassword_here {token : String} (h : w.Holding url known v)
    (holder : (v.api url).tokens.get? token = some email) (right : known email = some old) :
    (changePassword url ⟨url, token⟩ old new).Succeeds
      (fun _ => w.Holding url (if new = "" then known else Function.update known email (some new))) v := by
  unfold changePassword
  by_cases changes : (!new.isEmpty && new ≠ old) = true
  · rw [if_pos changes]
    obtain ⟨reply, -, holding⟩ := h.ask (.changePassword url token ⟨old, new⟩)
      (·.changePassword token ⟨old, new⟩) (ApiServer.signUpBroken_changePassword _ _ _)
    obtain ⟨done, users⟩ := ApiServer.changePassword_of_holder holder (by rw [h.users, right]) new
    rw [users, h.users] at holding
    rw [done] at reply
    have asked : (Program.perform (.changePassword url token ⟨old, new⟩)).Finishes (fun r v' =>
        r = .ok () ∧ w.Holding url (Function.update known email (some new)) v') v :=
      Program.finishes_perform_here rfl ⟨reply, holding⟩
    refine (Attempt.finishes_viaApi asked).mono ?_
    rintro _ v' ⟨_, rfl, rfl, holding⟩
    have notEmpty : new ≠ "" := by simp_all
    exact ⟨(), rfl, by rwa [if_neg notEmpty]⟩
  · rw [if_neg changes]
    refine .pure ⟨(), rfl, ?_⟩
    split
    · exact h
    · -- the new password is the old one, so changing it would change nothing
      obtain rfl : new = old := by simp_all
      rwa [← right, Function.update_eq_self]

/-- A refused login leaves everything as it was. -/
theorem Provisions.refuse {acceptable : Prop} (h : w.Holding url (w.api url).users.get? v)
    (unacceptable : ¬ acceptable) :
    Provisions w url email password acceptable (.error (.api (ApiServer.invalidCredentials 401))) v where
  succeeds := ⟨nofun, fun h => absurd h unacceptable⟩
  done := nofun
  refused := by
    rintro e ⟨⟩
    exact ⟨ApiServer.isInvalidCredentials_invalidCredentials, h.users⟩
  cluster := h.cluster
  others := h.others

/-- When the user has the wanted password or all passwords are what they were, a login decides. -/
theorem Provisions.of_logsIn {acceptable : Prop} {r : Except Failure Session}
    (h : w.Holding url known v) (login : LogsIn url email (known email = some password) v r)
    (given : known email = some password →
      acceptable ∧ known = Function.update (w.api url).users.get? email (some password))
    (kept : known email ≠ some password → ¬ acceptable ∧ known = (w.api url).users.get?) :
    Provisions w url email password acceptable r v := by
  cases login with
  | accepted right token holder =>
    obtain ⟨acceptable, changed⟩ := given right
    refine ⟨⟨fun _ => acceptable, fun _ => ⟨_, rfl⟩⟩, ?_, nofun, h.cluster, h.others⟩
    rintro session ⟨⟩
    exact ⟨rfl, holder, h.users.trans changed⟩
  | refused wrong =>
    obtain ⟨unacceptable, rfl⟩ := kept wrong
    exact .refuse h unacceptable

/-- Moving a user to another password. -/
theorem finishes_rotatePassword_here (faults : w.faults = []) (url email old new : String) :
    (rotatePassword url email old new).Finishes (Provisions w url email new
      ((w.api url).users.get? email = some old ∧ (new ≠ "" ∨ old = ""))) w := by
  refine (finishes_logIn_here (World.Holding.refl faults url)).bind ?_ ?_
  · rintro _ v₁ ⟨h₁, ⟨right, token, holder⟩⟩
    refine (succeeds_changePassword_here h₁ holder right).bind fun _ v₂ h₂ => ?_
    refine (finishes_logIn_here h₂).mono fun r v₃ ⟨h₃, login⟩ => .of_logsIn h₃ login ?_ ?_
    · intro given
      by_cases empty : new = ""
      · rw [if_pos empty, right] at given
        obtain rfl : old = new := Option.some.inj given
        refine ⟨⟨right, .inr empty⟩, ?_⟩
        rw [if_pos empty, ← right, Function.update_eq_self]
      · rw [if_neg empty]
        exact ⟨⟨right, .inl empty⟩, rfl⟩
    · intro kept
      have empty : new = "" := by
        by_contra notEmpty
        rw [if_neg notEmpty, Function.update_self] at kept
        exact kept rfl
      rw [if_pos empty] at kept ⊢
      refine ⟨fun ⟨_, acceptable⟩ => ?_, rfl⟩
      obtain rfl : old = "" := acceptable.resolve_left fun notEmpty => notEmpty empty
      exact kept (empty ▸ right)
  · rintro _ v₁ ⟨h₁, ⟨⟩ | wrong⟩
    exact .refuse h₁ fun ⟨right, _⟩ => wrong right

/-- Registering a user who may be known. -/
theorem finishes_ensureUser_here (faults : w.faults = []) (registers : (w.api url).signUpBroken = false)
    (user : ControlPlane.User) :
    (ensureUser url user).Finishes (Provisions w url user.email user.password.decode
      ((w.api url).users.get? user.email = none ∨
        (w.api url).users.get? user.email = some user.password.decode)) w := by
  obtain ⟨reply, -, holding⟩ := (World.Holding.refl faults url).ask (.signUp url (signUpOf user))
    (·.signUp url (signUpOf user)) (ApiServer.signUpBroken_signUp _ _ _)
  have asked : (Program.perform (.signUp url (signUpOf user))).Finishes (fun r v =>
      r = ((w.api url).signUp url (signUpOf user)).1 ∧
        w.Holding url ((w.api url).signUp url (signUpOf user)).2.users.get? v) w :=
    Program.finishes_perform_here rfl ⟨reply, holding⟩
  refine (Attempt.succeeds_ofProgram asked).bind ?_
  rintro _ v₁ ⟨rfl, h₁⟩
  obtain ⟨unknown, done, users⟩ | ⟨⟨password, known⟩, done, users⟩ :=
    ApiServer.signUp_cases registers url (signUpOf user)
  · rw [users] at h₁
    rw [done]
    refine (finishes_logIn_here h₁).mono fun r v₂ ⟨h₂, login⟩ => .of_logsIn h₂ login ?_ ?_
    · exact fun _ => ⟨.inl unknown, rfl⟩
    · intro kept
      exact absurd (Function.update_self ..) kept
  · rw [users] at h₁
    rw [done]
    dsimp only
    rw [if_pos ApiServer.isAccountExists_accountExists]
    refine (finishes_logIn_here h₁).mono fun r v₂ ⟨h₂, login⟩ => .of_logsIn h₂ login ?_ ?_
    · intro given
      exact ⟨.inr given, by rw [← given, Function.update_eq_self]⟩
    · rintro kept
      refine ⟨?_, rfl⟩
      rintro (unknown | given)
      · exact nomatch known.symm.trans unknown
      · exact kept given

/-- Where users can be registered, a user is moved from one password to another if the old one is right and
the new one is not empty or the same, and a user is registered if nobody of that name has another password.
Then that user alone has the password, and the session is the user's; in all other cases no password
changes, and the error reads as a wrong password. -/
theorem provisioning_exact (w : World) (url : String) (faults : w.faults = [])
    (registers : (w.api url).signUpBroken = false) :
    (∀ email old new, Provisions w url email new
      ((w.api url).users.get? email = some old ∧ (new ≠ "" ∨ old = ""))
      (w.run (rotatePassword url email old new).run).1
      (w.run (rotatePassword url email old new).run).2) ∧
    (∀ user : ControlPlane.User, Provisions w url user.email user.password.decode
      ((w.api url).users.get? user.email = none ∨
        (w.api url).users.get? user.email = some user.password.decode)
      (w.run (ensureUser url user).run).1 (w.run (ensureUser url user).run).2) :=
  ⟨fun email old new => World.run_of_finishes_here (finishes_rotatePassword_here faults url email old new),
    fun user => World.run_of_finishes_here (finishes_ensureUser_here faults registers user)⟩

/-- An interface that knows two users, one of them by an empty password, and has given a token to the other
that the next login hands out again. -/
def peopledWorld : World where
  apis := Dict.insert {} "http://api"
    { (ApiServer.addUser {} "a@b.c" "one").addUser "d@e.f" "" with
      tokens := Dict.insert {} "token-1" "d@e.f" }

/-- The password of `a@b.c` moves to another one, but not to an empty one; that of `d@e.f` may stay empty.
A user who is new is registered, but not one who has another password. -/
theorem provisioning_exact_peopled :
    let succeeds (x : Attempt Session) := ∃ session, (peopledWorld.run x.run).1 = .ok session
    peopledWorld.faults = [] ∧ (peopledWorld.api "http://api").signUpBroken = false ∧
      succeeds (rotatePassword "http://api" "a@b.c" "one" "two") ∧
      ¬ succeeds (rotatePassword "http://api" "a@b.c" "one" "") ∧
      succeeds (rotatePassword "http://api" "d@e.f" "" "") ∧
      succeeds (ensureUser "http://api" ⟨"A", "B", "g@h.i", .ofPlain "three"⟩) ∧
      ¬ succeeds (ensureUser "http://api" ⟨"A", "B", "a@b.c", .ofPlain "three"⟩) := by
  obtain ⟨rotations, registrations⟩ := provisioning_exact peopledWorld "http://api" rfl (by decide)
  refine ⟨rfl, by decide, ?_, ?_, ?_, ?_, ?_⟩
  · exact (rotations "a@b.c" "one" "two").succeeds.2 (by decide)
  · exact fun done => absurd ((rotations "a@b.c" "one" "").succeeds.1 done) (by decide)
  · exact (rotations "d@e.f" "" "").succeeds.2 (by decide)
  · exact (registrations ⟨"A", "B", "g@h.i", .ofPlain "three"⟩).succeeds.2 (by decide +kernel)
  · exact fun done => absurd ((registrations ⟨"A", "B", "a@b.c", .ofPlain "three"⟩).succeeds.1 done)
      (by decide +kernel)

end Bootstrap

end EdgePlane
