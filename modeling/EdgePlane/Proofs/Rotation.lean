import EdgePlane.Proofs.Credentials
import EdgePlane.Proofs.Round

/-!
# Retries after a change of the password

A password is changed in three places after one another: at the management interface, in the credentials
of the port manager, and in its pods. A pass may fail between them. The next pass only asks whether the
interface accepts the declared password, which it does from the first step on, so nothing of the other
steps is made up for.
-/

namespace EdgePlane.Reconcile

open Kubernetes Management Simulation

variable {settings : Setup} {target : Target} {user : ControlPlane.User} {ns : String}
  {t : List Event}

/-- Whether an event is a change of a password at a URL that went through. -/
def isPasswordChange (url : String) : Event → Bool
  | ⟨.changePassword u _ _, .ok _⟩ => u = url
  | _ => false

/-- Whether an event comes before what follows a change of the password: it neither stores credentials
nor replaces pods of the port manager. -/
def IsAhead (ns : String) (e : Event) : Prop :=
  e.storedAt? (credentialsAddress ns) = none ∧ e ≠ restarted ns PortManager.name

/-- The calls that move a user from the password that the port manager holds to the declared one. -/
def changeCalls (ns : String) (user : ControlPlane.User) (found : Option Object) (previous : Credential)
    (held : AccessToken) : List Event :=
  [⟨.get (credentialsAddress ns), .ok found⟩,
    ⟨.logIn (internalUrl ns) ⟨user.email, previous.decode⟩, .ok held⟩,
    ⟨.changePassword (internalUrl ns) held.accessToken ⟨previous.decode, user.password.decode⟩, .ok ()⟩]

theorem ahead_changeCalls {found : Option Object} {previous : Credential} {held : AccessToken} :
    ∀ e ∈ changeCalls ns user found previous held, IsAhead ns e := by
  simp [changeCalls, IsAhead, restarted, Event.storedAt?, Event.stored?]

/-- A trace that moves a user from the password that the port manager holds to the declared one. After
the change it may or may not come to store the declared credentials. -/
inductive Moves (ns : String) (user : ControlPlane.User) : List Event → Prop
  | intro (t₁ t₂ : List Event) (found : Option Object) (previous : Credential) (held : AccessToken)
    (holds : heldPassword? found = some previous.encoded)
    (other : previous.decode ≠ user.password.decode)
    (before : ∀ e ∈ t₁, IsAhead ns e)
    (users : ∀ e ∈ t₂, LeavesUsers ns e)
    (after : (∀ e ∈ t₂, IsAhead ns e) ∨ ∃ u e o v, t₂ = u ++ e :: v ∧ (∀ e ∈ u, IsAhead ns e) ∧
      e.storedAt? (credentialsAddress ns) = some o) :
    Moves ns user (t₁ ++ (changeCalls ns user found previous held ++ t₂))

/-- What stands around a trace does not matter if it has nothing to do with credentials, accounts and
pods. -/
theorem Moves.surround {before after : List Event} (h : Moves ns user t)
    (ahead : ∀ e ∈ before ++ after, IsAhead ns e) (users : ∀ e ∈ after, LeavesUsers ns e) :
    Moves ns user (before ++ (t ++ after)) := by
  obtain ⟨t₁, t₂, found, previous, held, holds, other, before', users', after'⟩ := h
  have whole := Moves.intro (before ++ t₁) (t₂ ++ after) found previous held holds other
    (fun e he => (List.mem_append.1 he).elim (fun h => ahead e (by simp [h])) (before' e))
    (fun e he => (List.mem_append.1 he).elim (users' e) (users e)) ?_
  · simpa using whole
  rcases after' with unsaved | ⟨u, e, o, v, rfl, hu, stores⟩
  · exact .inl fun e he => (List.mem_append.1 he).elim (unsaved e) fun h => ahead e (by simp [h])
  · exact .inr ⟨u, e, o, v ++ after, by simp, hu, stores⟩

theorem mem_changeOf {url token old new : String} {r : Except ApiError Unit} {e : Event}
    (h : e ∈ Bootstrap.changeOf url token old new r) :
    Bootstrap.changeOf url token old new r = [⟨.changePassword url token ⟨old, new⟩, r⟩] ∧
      old ≠ new := by
  unfold Bootstrap.changeOf at h ⊢
  split at h
  · rename_i changes
    rw [if_pos changes]
    simp only [Bool.and_eq_true, decide_eq_true_eq] at changes
    exact ⟨rfl, Ne.symm changes.2⟩
  · cases h

/-- Calls of the declared user's registration and login change no password. -/
theorem not_passwordChange_ensureUser {url url' : String} {r : Except Failure Session}
    (h : (Bootstrap.ensureUser url user).run.Plays t r) :
    ∀ e ∈ t, isPasswordChange url' e = false := by
  intro e he
  cases r with
  | ok s =>
    obtain ⟨answer, token, rfl, -⟩ := Bootstrap.yields_ensureUser h
    simp only [List.mem_cons, List.not_mem_nil, or_false] at he
    rcases he with rfl | rfl <;> rfl
  | error failure =>
    obtain ⟨cause, rfl, -⟩ | ⟨answer, cause, rfl, -⟩ := Bootstrap.fails_ensureUser h
    · obtain rfl := List.mem_singleton.1 he
      rfl
    · simp only [List.mem_cons, List.not_mem_nil, or_false] at he
      rcases he with rfl | rfl <;> rfl

/-- The calls of the interface are ahead. -/
theorem ahead_of_account {url : String} {e : Event} (h : e.call.isAccountAt url) : IsAhead ns e := by
  refine ⟨storedAt_of_account h _, ?_⟩
  rintro rfl
  simp [restarted, Call.isAccountAt] at h

theorem leavesUsers_of_not_account {e : Event} (h : e.call.isAccountAt (internalUrl ns) = false) :
    LeavesUsers ns e := fun a => congrArg Accounts.users (Part.accountsAt_ignores h a)

theorem leavesUsers_logIn (r : LogIn) (answer : Except ApiError AccessToken) :
    LeavesUsers ns ⟨.logIn (internalUrl ns) r, answer⟩ := (neutral_logIn r answer).users

/-- A sync that fails has stored nothing. -/
theorem ahead_of_fails_sync {owner : OwnerReference} {mode : SyncMode} {o : Object} {e : Failure}
    (h : (sync owner mode o).Fails t e) : ∀ e ∈ t, IsAhead ns e := by
  obtain rfl | rfl | ⟨old, rfl, -⟩ := fails_sync h <;>
    simp [IsAhead, restarted, Event.storedAt?, Event.stored?]

/-- A change of the password stands between two logins. -/
theorem plays_rotatePassword_of_change {url email old new : String} {r : Except Failure Session}
    (h : (Bootstrap.rotatePassword url email old new).run.Plays t r)
    (changes : ∃ e ∈ t, isPasswordChange url e) :
    old ≠ new ∧ ∃ held answer, t = [⟨.logIn url ⟨email, old⟩, .ok held⟩,
      ⟨.changePassword url held.accessToken ⟨old, new⟩, .ok ()⟩,
      ⟨.logIn url ⟨email, new⟩, answer⟩] := by
  obtain ⟨e, he, change⟩ := changes
  have between {held : AccessToken} {answer : Except ApiError AccessToken}
      (ht : t = ⟨.logIn url ⟨email, old⟩, .ok held⟩ ::
        (Bootstrap.changeOf url held.accessToken old new (.ok ()) ++
          [⟨.logIn url ⟨email, new⟩, answer⟩])) :
      old ≠ new ∧ ∃ held answer, t = [⟨.logIn url ⟨email, old⟩, .ok held⟩,
        ⟨.changePassword url held.accessToken ⟨old, new⟩, .ok ()⟩,
        ⟨.logIn url ⟨email, new⟩, answer⟩] := by
    subst ht
    rcases List.mem_cons.1 he with rfl | he
    · cases change
    rcases List.mem_append.1 he with he | he
    · obtain ⟨eq, ne⟩ := mem_changeOf he
      exact ⟨ne, held, answer, by rw [eq]; rfl⟩
    · obtain rfl := List.mem_singleton.1 he
      cases change
  cases r with
  | ok session =>
    obtain ⟨held, answer, ht, -⟩ := Bootstrap.yields_rotatePassword h
    exact between ht
  | error failure =>
    obtain ⟨cause, rfl⟩ | ⟨held, cause, rfl⟩ | ⟨held, cause, ht⟩ := Bootstrap.fails_rotatePassword h
    · obtain rfl := List.mem_singleton.1 he
      cases change
    · rcases List.mem_cons.1 he with rfl | he
      · cases change
      · rw [(mem_changeOf he).1] at he
        obtain rfl := List.mem_singleton.1 he
        cases change
    · exact between ht

/-- Calls about objects, and replacements of pods, change no password. -/
theorem not_passwordChange {url : String} {e : Event} (h : e.call.isAccountAt url = false) :
    isPasswordChange url e = false := by
  obtain ⟨c, r⟩ := e
  cases c <;> first
    | rfl
    | (cases r <;> first | rfl | exact h)

/-- Storing the declared credentials ends with a write. -/
theorem last_of_yields_sync {r : SyncResult}
    (h : (target.syncObject (credentialsOf target user)).Yields t r) :
    ∃ answer e, t = [⟨.get (credentialsAddress target.namespaceName), answer⟩, e] ∧
      e.storedAt? (credentialsAddress target.namespaceName) =
        some ((credentialsOf target user).ownedBy target.owner) := by
  obtain ⟨rfl, -⟩ | ⟨old, rfl, -⟩ | ⟨old, -, ⟨⟩, -⟩ := yields_sync h
  · exact ⟨_, _, rfl, Option.filter_eq_some_iff.2 ⟨rfl, decide_eq_true rfl⟩⟩
  · exact ⟨_, _, rfl, Option.filter_eq_some_iff.2 ⟨rfl, decide_eq_true rfl⟩⟩

/-- The calls `u` of a rotation that changes the password are followed by `v`, which leaves the
interface alone. -/
theorem moves_of_rotatePassword {found : Option Object} {previous : Credential}
    {t₁ u v : List Event} {r : Except Failure Session}
    (before : ∀ e ∈ t₁, IsAhead target.namespaceName e)
    (holds : heldPassword? found = some previous.encoded)
    (rotated : (Bootstrap.rotatePassword (internalUrl target.namespaceName) user.email
      previous.decode user.password.decode).run.Plays u r)
    (quiet : ∀ e ∈ v, e.call.isAccountAt (internalUrl target.namespaceName) = false)
    (changes : ∃ e ∈ u ++ v, isPasswordChange (internalUrl target.namespaceName) e)
    (after : (∀ e ∈ v, IsAhead target.namespaceName e) ∨ ∃ v₁ e o v₂, v = v₁ ++ e :: v₂ ∧
      (∀ e ∈ v₁, IsAhead target.namespaceName e) ∧
      e.storedAt? (credentialsAddress target.namespaceName) = some o) :
    Moves target.namespaceName user
      (t₁ ++ ⟨.get (credentialsAddress target.namespaceName), .ok found⟩ :: (u ++ v)) := by
  have changes : ∃ e ∈ u, isPasswordChange (internalUrl target.namespaceName) e := by
    obtain ⟨e, he, change⟩ := changes
    rcases List.mem_append.1 he with he | he
    · exact ⟨e, he, change⟩
    · rw [not_passwordChange (quiet e he)] at change
      cases change
  obtain ⟨ne, held, answer, rfl⟩ := plays_rotatePassword_of_change rotated changes
  have login : IsAhead target.namespaceName
      ⟨.logIn (internalUrl target.namespaceName) ⟨user.email, user.password.decode⟩, answer⟩ :=
    ⟨rfl, by simp [restarted]⟩
  refine .intro t₁ (⟨.logIn (internalUrl target.namespaceName) ⟨user.email, user.password.decode⟩,
    answer⟩ :: v) found previous held holds ne before (fun e he => ?_) ?_
  · rcases List.mem_cons.1 he with rfl | he
    · exact leavesUsers_logIn _ _
    · exact leavesUsers_of_not_account (quiet e he)
  · rcases after with unsaved | ⟨v₁, e, o, v₂, rfl, hv, stores⟩
    · refine .inl fun e he => ?_
      rcases List.mem_cons.1 he with rfl | he
      · exact login
      · exact unsaved e he
    · refine .inr ⟨_ :: v₁, e, o, v₂, rfl, fun e he => ?_, stores⟩
      rcases List.mem_cons.1 he with rfl | he
      · exact login
      · exact hv e he

/-- What follows a change of the password is the login with the new one, and then the credentials. -/
theorem moves_of_rotates {t₁ : List Event} {r : Except Failure Session}
    (before : ∀ e ∈ t₁, IsAhead target.namespaceName e)
    (rotates : Rotates target (internalUrl target.namespaceName) user r t)
    (changes : ∃ e ∈ t, isPasswordChange (internalUrl target.namespaceName) e) :
    Moves target.namespaceName user (t₁ ++ t) := by
  have looked {found : Option Object} {t : List Event}
      (h : ∃ e ∈ ⟨.get (credentialsAddress target.namespaceName), .ok found⟩ :: t,
        isPasswordChange (internalUrl target.namespaceName) e) :
      ∃ e ∈ t, isPasswordChange (internalUrl target.namespaceName) e := by
    obtain ⟨e, he, change⟩ := h
    rcases List.mem_cons.1 he with rfl | he
    · cases change
    · exact ⟨e, he, change⟩
  cases rotates with
  | unread answer failure =>
    obtain ⟨e, he, change⟩ := changes
    obtain rfl := List.mem_singleton.1 he
    cases answer <;> cases change
  | refused found previous u failure holds rotated =>
    have := moves_of_rotatePassword (v := []) before holds rotated (by simp)
      (by simpa using looked changes) (.inl (by simp))
    simpa using this
  | unsaved found previous u v session failure holds rotated synced =>
    exact moves_of_rotatePassword before holds rotated (not_account_of_sync synced _)
      (looked changes) (.inl (ahead_of_fails_sync synced))
  | saved found previous u v w session result _ holds rotated synced pods =>
    refine moves_of_rotatePassword before holds rotated (fun e he => ?_) (looked changes) (.inr ?_)
    · rcases List.mem_append.1 he with he | he
      · exact not_account_of_sync synced _ e he
      · exact (pods.idle e he).2 _
    · obtain ⟨answer, store, rfl, stores⟩ := last_of_yields_sync synced
      refine ⟨[_], store, _, w, rfl, fun e he => ?_, stores⟩
      obtain rfl := List.mem_singleton.1 he
      simp [IsAhead, restarted, Event.storedAt?, Event.stored?]

/-- A session that changes the password moves the user. -/
theorem moves_openSession {r : Except Failure Session}
    (opened : (openSession target (internalUrl target.namespaceName) user).run.Plays t r)
    (changes : ∃ e ∈ t, isPasswordChange (internalUrl target.namespaceName) e) :
    Moves target.namespaceName user t := by
  obtain ⟨e, he, change⟩ := changes
  rcases plays_openSession opened with ⟨s, ensured, -⟩ | ⟨failure, failed, -⟩ |
    ⟨t₁, failure, t₂, rfl, failed, -, rotates⟩
  · rw [not_passwordChange_ensureUser ensured e he] at change
    cases change
  · rw [not_passwordChange_ensureUser failed e he] at change
    cases change
  · refine moves_of_rotates (fun e he => ahead_of_account
      (Program.Plays.only failed (ensureUser_reach ..) e he)) rotates ⟨e, ?_, change⟩
    refine (List.mem_append.1 he).resolve_left fun he => ?_
    rw [not_passwordChange_ensureUser failed e he] at change
    cases change

/-- What the controller's part does outside of sessions is about no credentials, accounts and pods of
the port manager. -/
theorem ahead_of_beside {e : Event} (h : e.call.IsBeside ns) : IsAhead ns e := by
  refine ⟨(aside_of_beside h).unstored, ?_⟩
  rintro rfl
  simp [restarted, Call.IsBeside, Call.Within, Call.isQuiet, Call.stores?, Call.isRegistration,
    PortManager.name, Controller.name] at h

/-- A round that changes the password moves the user that it was declared. -/
theorem Round.moves (r : Round settings) (home : r.cp.metadata.namespaceName = some ns)
    (changes : ∃ e ∈ r.trace, isPasswordChange (internalUrl ns) e) :
    Moves ns r.cp.spec.user r.trace := by
  obtain ⟨e, he, change⟩ := changes
  have beside {e : Event} (h : e.call.IsBeside ns) (change : isPasswordChange (internalUrl ns) e) :
      False := by
    obtain ⟨c, answer⟩ := e
    cases c with
    | changePassword url token request =>
      simp [Call.IsBeside, Call.Within, Call.isQuiet, Call.stores?, Call.isRegistration] at h
    | _ => cases change
  rcases plays_controller_session r.plays home with none |
    ⟨target, before, session, after, answer, rfl, split, opened, apart, -⟩
  · exact (beside (none e he) change).elim
  rw [split] at he ⊢
  have inside : e ∈ session := by
    rcases List.mem_append.1 he with he | he
    · exact (beside (apart e (by simp [he])) change).elim
    · exact (List.mem_append.1 he).resolve_right fun he => beside (apart e (by simp [he])) change
  exact (moves_openSession opened ⟨e, inside, change⟩).surround
    (fun e he => ahead_of_beside (apart e he))
    fun e he => (aside_of_beside (apart e (by simp [he]))).neutral.users

/-- Whether an object holds the credentials of a user for the port manager. -/
def HoldsUser (user : ControlPlane.User) (held : Option Object) : Prop :=
  heldCredentials? held = some (user.email, user.password)

/-- A round stores no credentials but the declared ones. -/
theorem Round.stores_declared (r : Round settings) (home : r.cp.metadata.namespaceName = some ns)
    {e : Event} (he : e ∈ r.trace) {o : Object} (stores : e.storedAt? (credentialsAddress ns) = some o) :
    HoldsUser r.cp.spec.user (some o) := by
  have beside {e : Event} (h : e.call.IsBeside ns)
      (stores : e.storedAt? (credentialsAddress ns) = some o) : False := by
    rw [(ahead_of_beside h).1] at stores
    cases stores
  rcases plays_controller_session r.plays home with none |
    ⟨target, before, session, after, answer, rfl, split, opened, apart, -⟩
  · exact (beside (none e he) stores).elim
  rw [split] at he
  rcases List.mem_append.1 he with he | he
  · exact (beside (apart e (by simp [he])) stores).elim
  rcases List.mem_append.1 he with he | he
  · rcases Program.Plays.only opened (openSession_reach target r.cp.spec.user) e he with
      (quiet | ⟨o', stores', declared⟩) | account | restart
    · rw [storedAt_of_within (W := fun _ => False) (.inl quiet) fun _ h => h.elim] at stores
      cases stores
    · obtain ⟨stored, -⟩ := Option.filter_eq_some_iff.1 stores
      obtain rfl := Option.some.inj ((Event.stores?_of_stored stored).symm.trans stores')
      rw [declared]
      exact heldCredentials?_credentialsOf target r.cp.spec.user
    · rw [storedAt_of_account account] at stores
      cases stores
    · obtain ⟨c, answer⟩ := e
      obtain rfl := restart
      cases stores
  · exact (beside (apart e (by simp [he])) stores).elim

/-- Whether the interface refused a round the declared user as having a wrong password. -/
def Round.IsRefused (r : Round settings) (ns : String) : Prop :=
  ∃ cause, (Failure.api cause).isInvalidCredentials ∧
    (⟨.signUp (internalUrl ns) (Bootstrap.signUpOf r.cp.spec.user), .error cause⟩ ∈ r.trace ∨
      ⟨.logIn (internalUrl ns) (Bootstrap.logInOf r.cp.spec.user), .error cause⟩ ∈ r.trace)

/-- Only a round that was refused replaces pods of the port manager. -/
theorem Round.refused_of_restarted (r : Round settings) (home : r.cp.metadata.namespaceName = some ns)
    (h : restarted ns PortManager.name ∈ r.trace) : r.IsRefused ns := by
  rcases plays_controller_session r.plays home with none |
    ⟨target, before, session, after, answer, rfl, split, opened, apart, -⟩
  · exact ((ahead_of_beside (none _ h)).2 rfl).elim
  have inside : restarted target.namespaceName PortManager.name ∈ session := by
    rw [split] at h
    rcases List.mem_append.1 h with h | h
    · exact ((ahead_of_beside (apart _ (by simp [h]))).2 rfl).elim
    · exact (List.mem_append.1 h).resolve_right fun h =>
        (ahead_of_beside (apart _ (by simp [h]))).2 rfl
  have account {t : List Event} {answer : Except Failure Session}
      (h : (Bootstrap.ensureUser (internalUrl target.namespaceName) r.cp.spec.user).run.Plays t answer) :
      restarted target.namespaceName PortManager.name ∉ t := fun he =>
    (ahead_of_account (Program.Plays.only h (ensureUser_reach ..) _ he)).2 rfl
  rcases plays_openSession opened with ⟨s, ensured, -⟩ | ⟨failure, failed, -⟩ |
    ⟨t₁, failure, t₂, rfl, failed, invalid, -⟩
  · exact (account ensured inside).elim
  · exact (account failed inside).elim
  · have mem {e : Event} (h : e ∈ t₁) : e ∈ r.trace := by simp [split, h]
    obtain ⟨cause, rfl, rfl⟩ | ⟨answer, cause, rfl, rfl⟩ := Bootstrap.fails_ensureUser failed
    · exact ⟨cause, invalid, .inl (mem (by simp))⟩
    · exact ⟨cause, invalid, .inr (mem (by simp))⟩

/-- The port manager holds another password than the declared one, which the interface knows. -/
structure Outdated (user : ControlPlane.User) (held : Option Object) (a : Accounts) : Prop where
  other : ∃ previous : Credential, heldPassword? held = some previous.encoded ∧
    previous.decode ≠ user.password.decode
  known : a.users.get? user.email = some user.password.decode

namespace Outdated

variable {held : Option Object} {a : Accounts}

/-- A user who is known is not registered again. -/
theorem neutral_signUp (h : Outdated user held a) {answer : Except ApiError Unit}
    (fits : (Part.accountsAt (internalUrl ns)).Fits a
      ⟨.signUp (internalUrl ns) (Bootstrap.signUpOf user), answer⟩) :
    IsNeutral ns ⟨.signUp (internalUrl ns) (Bootstrap.signUpOf user), answer⟩ := by
  cases answer with
  | ok u =>
    have unknown := (fits rfl).symm.trans h.known
    cases unknown
  | error e => exact neutral_signUp_error _ e

theorem neutral_ensureUser (h : Outdated user held a) {r : Except Failure Session}
    (plays : (Bootstrap.ensureUser (internalUrl ns) user).run.Plays t r)
    (known : (Part.accountsAt (internalUrl ns)).Admits a t) : ∀ e ∈ t, IsNeutral ns e := by
  intro e he
  cases r with
  | ok s =>
    obtain ⟨answer, token, rfl, -⟩ := Bootstrap.yields_ensureUser plays
    simp only [List.mem_cons, List.not_mem_nil, or_false] at he
    rcases he with rfl | rfl
    · exact h.neutral_signUp known.1
    · exact neutral_logIn _ _
  | error failure =>
    obtain ⟨cause, rfl, -⟩ | ⟨answer, cause, rfl, -⟩ := Bootstrap.fails_ensureUser plays
    · obtain rfl := List.mem_singleton.1 he
      exact neutral_signUp_error _ cause
    · simp only [List.mem_cons, List.not_mem_nil, or_false] at he
      rcases he with rfl | rfl
      · exact h.neutral_signUp known.1
      · exact neutral_logIn _ _

/-- Outdated credentials are of no use for another change of the password. -/
theorem neutral_rotatePassword (h : Outdated user held a) {r : Except Failure Session}
    {previous : Credential} (holds : heldPassword? held = some previous.encoded)
    (plays : (Bootstrap.rotatePassword (internalUrl ns) user.email previous.decode
      user.password.decode).run.Plays t r)
    (known : (Part.accountsAt (internalUrl ns)).Admits a t) :
    (∃ e, r = .error e) ∧ ∀ e ∈ t, IsNeutral ns e := by
  obtain ⟨⟨encoded⟩, holds', other⟩ := h.other
  obtain ⟨encoded'⟩ := previous
  obtain rfl : encoded' = encoded := Option.some.inj (holds.symm.trans holds')
  have refused {answer : AccessToken} {u : List Event}
      (ht : t = ⟨.logIn (internalUrl ns) ⟨user.email, Credential.decode ⟨encoded'⟩⟩, .ok answer⟩ :: u) :
      False := by
    rw [ht] at known
    exact other (Option.some.inj ((known.1 rfl).symm.trans h.known))
  cases r with
  | ok session =>
    obtain ⟨first, answer, ht, -⟩ := Bootstrap.yields_rotatePassword plays
    exact (refused ht).elim
  | error failure =>
    obtain ⟨cause, rfl⟩ | ⟨first, cause, ht⟩ | ⟨first, cause, ht⟩ :=
      Bootstrap.fails_rotatePassword plays
    · refine ⟨⟨failure, rfl⟩, fun e he => ?_⟩
      obtain rfl := List.mem_singleton.1 he
      exact neutral_logIn _ _
    · exact (refused ht).elim
    · exact (refused ht).elim

theorem neutral_openSession {held : Option Object} (h : Outdated user held a)
    {r : Except Failure Session}
    (opened : (openSession target (internalUrl target.namespaceName) user).run.Plays t r)
    (stored : (Part.objectAt (credentialsAddress target.namespaceName)).Admits held t)
    (known : (Part.accountsAt (internalUrl target.namespaceName)).Admits a t) :
    ∀ e ∈ t, IsNeutral target.namespaceName e := by
  rcases plays_openSession opened with ⟨s, ensured, -⟩ | ⟨failure, failed, -⟩ |
    ⟨t₁, failure, t₂, rfl, failed, -, rotates⟩
  · exact h.neutral_ensureUser ensured known
  · exact h.neutral_ensureUser failed known
  rw [Part.admits_append] at stored known
  have before := h.neutral_ensureUser failed known.1
  have still : Outdated user held ((Part.accountsAt (internalUrl target.namespaceName)).run a t₁) :=
    ⟨h.other, by rw [users_of_neutral before]; exact h.known⟩
  rw [held_of_neutral before] at stored
  have after : ∀ e ∈ t₂, IsNeutral target.namespaceName e := by
    have rest {found : Option Object} {previous : Credential} {u v : List Event}
        {r : Except Failure Session} (ht : t₂ =
          ⟨.get (credentialsAddress target.namespaceName), .ok found⟩ :: (u ++ v))
        (holds : heldPassword? found = some previous.encoded)
        (plays : (Bootstrap.rotatePassword (internalUrl target.namespaceName) user.email
          previous.decode user.password.decode).run.Plays u r) :
        (∃ e, r = .error e) ∧ ∀ e ∈ u, IsNeutral target.namespaceName e := by
      rw [ht] at stored known
      obtain rfl : found = held := stored.2.1 rfl
      exact still.neutral_rotatePassword holds plays ((Part.admits_append _ _ u v).1 known.2.2).1
    cases rotates with
    | unread answer e =>
      intro e he
      obtain rfl := List.mem_singleton.1 he
      exact neutral_get _ _
    | refused found previous u e holds rotated =>
      intro e he
      rcases List.mem_cons.1 he with rfl | he
      · exact neutral_get _ _
      · exact (rest (v := []) (by simp) holds rotated).2 e he
    | unsaved found previous u v session e holds rotated synced =>
      obtain ⟨⟨e, ⟨⟩⟩, -⟩ := rest rfl holds rotated
    | saved found previous u v w session result _ holds rotated synced pods =>
      obtain ⟨⟨e, ⟨⟩⟩, -⟩ := rest rfl holds rotated
  exact fun e he => (List.mem_append.1 he).elim (before e) (after e)

/-- A round leaves outdated credentials, and the users, as they are. -/
theorem neutral_round (r : Round settings) (home : r.cp.metadata.namespaceName = some ns)
    (h : Outdated r.cp.spec.user held a)
    (stored : (Part.objectAt (credentialsAddress ns)).Admits held r.trace)
    (known : (Part.accountsAt (internalUrl ns)).Admits a r.trace) : ∀ e ∈ r.trace, IsNeutral ns e := by
  rcases plays_controller_session r.plays home with none |
    ⟨target, before, session, after, answer, rfl, split, opened, apart, -⟩
  · exact fun e he => (aside_of_beside (none e he)).neutral
  have aside : ∀ e ∈ before ++ after, IsAside target.namespaceName e :=
    fun e he => aside_of_beside (apart e he)
  have around := Interleaving.surround before session after
  rw [split] at stored known ⊢
  have inside := h.neutral_openSession opened
    ((Part.interleaving (P := .objectAt _) around
      (fun e he => Part.objectAt_ignores (aside e he).unstored) _).2 stored)
    ((Part.interleaving (P := .accountsAt _) around (fun e he => (aside e he).ignored) _).2 known)
  exact fun e he => (around.mem_iff.1 he).elim (inside e) fun he => (aside e he).neutral

/-- So do all rounds that declare the same user. -/
theorem neutral_history {rounds : List (Round settings)} (h : Outdated user held a)
    (home : ∀ r ∈ rounds, r.cp.metadata.namespaceName = some ns)
    (same : ∀ r ∈ rounds, r.cp.spec.user = user)
    (stored : (Part.objectAt (credentialsAddress ns)).Admits held (history rounds))
    (known : (Part.accountsAt (internalUrl ns)).Admits a (history rounds)) :
    ∀ e ∈ history rounds, IsNeutral ns e := by
  induction rounds generalizing held a with
  | nil => simp
  | cons r rounds ih =>
    rw [history_cons, Part.admits_append] at stored known
    have here := neutral_round r (home r (by simp)) (same r (by simp) ▸ h) stored.1 known.1
    rw [held_of_neutral here] at stored
    have still : Outdated user held ((Part.accountsAt (internalUrl ns)).run a r.trace) :=
      ⟨h.other, by rw [users_of_neutral here]; exact h.known⟩
    have later := ih still (fun r hr => home r (by simp [hr])) (fun r hr => same r (by simp [hr]))
      stored.2 known.2
    rw [history_cons]
    exact fun e he => (List.mem_append.1 he).elim (here e) (later e)

end Outdated

/-- Whether an event may happen beside the rounds: it is about no account, replaces no credentials and
replaces no pods of the port manager. -/
structure IsBystander (ns : String) (e : Event) : Prop where
  account : e.call.isAccountAt (internalUrl ns) = false
  notApplied : ∀ o, e.call = .apply o → o.address ≠ credentialsAddress ns
  notRestarted : e ≠ restarted ns PortManager.name

/-- Writes of objects apart from the credentials happen beside the rounds. -/
theorem bystander_of_within {W : Object → Prop} {e : Event} (h : e.call.Within W)
    (apart : ∀ o, e.call = .apply o → o.address ≠ credentialsAddress ns) : IsBystander ns e := by
  refine ⟨not_account_of_within h _, apart, ?_⟩
  rintro rfl
  simp [restarted, Call.Within, Call.isQuiet, Call.stores?] at h

theorem bystander_of_bookkeeping {e : Event} (h : e.call.isBookkeeping) : IsBystander ns e := by
  refine ⟨not_account_of_bookkeeping h _, fun o heq => ?_, ?_⟩
  · simp [heq, Call.isBookkeeping] at h
  · rintro rfl
    simp [restarted, Call.isBookkeeping] at h

/-- What a visit does beside its round happens beside the rounds. -/
theorem IsElsewhere.bystander {e : Event} (h : IsElsewhere settings e) (ns : String) :
    IsBystander ns e := by
  cases h with
  | bookkeeping bookkept => exact bystander_of_bookkeeping bookkept
  | router cp t o plays mem =>
    have within := plays.only (router_reach settings cp) e mem
    refine bystander_of_within within fun o heq here => ?_
    rcases within with quiet | ⟨o', stores, ⟨-, name⟩, -⟩
    · simp [heq, Call.isQuiet] at quiet
    · obtain rfl : o = o' := by simpa [heq, Call.stores?] using stores
      simp [here, routerNames, credentialsAddress, PortManager.credentialsSecretName, Router.name,
        Router.authoritySecretName, Router.amqpsSecretName, Router.internalSecretName] at name
  | portManager cp t o plays mem =>
    have applies := plays.only (portManager_applies settings cp) e mem
    refine bystander_of_within (plays.only (portManager_reach settings cp) e mem) fun o heq here => ?_
    simpa [here, credentialsAddress, PortManager.credentialsSecretName, PortManager.name] using
      applies o heq

/-- The place of the port manager's deployment. -/
def portManagerAddress (ns : String) : Address := ⟨.deployment, ns, PortManager.name⟩

/-- Whether pods of the port manager were replaced after its credentials last changed. -/
def RestartedSince (ns : String) (start : Option Object) (t : List Event) : Prop :=
  ∃ before after, t = before ++ restarted ns PortManager.name :: after ∧ ∀ u v, after = u ++ v →
    heldCredentials? ((Part.objectAt (credentialsAddress ns)).run start
      (before ++ restarted ns PortManager.name :: u)) =
    heldCredentials? ((Part.objectAt (credentialsAddress ns)).run start t)

/-- Whether a trace has brought a user's password everywhere: the port manager holds it, and its pods, if
it is deployed, were replaced since. -/
def Rotated (ns : String) (user : ControlPlane.User) (start deployment : Option Object)
    (t : List Event) : Prop :=
  HoldsUser user ((Part.objectAt (credentialsAddress ns)).run start t) ∧
    ((Part.objectAt (portManagerAddress ns)).run deployment t = none ∨ RestartedSince ns start t)

/-- Whether a round stored credentials. -/
def Round.Saves (r : Round settings) (ns : String) : Prop :=
  ∃ e ∈ r.trace, (e.storedAt? (credentialsAddress ns)).isSome

theorem Round.not_saves (r : Round settings) (h : ∀ e ∈ r.trace, IsAhead ns e) : ¬ r.Saves ns := by
  rintro ⟨e, he, isSome⟩
  rw [(h e he).1] at isSome
  cases isSome

section Beside

variable {l others : List Event} {old : Option Object} {a : Accounts}

/-- Beside rounds that find credentials nobody else stores any. -/
theorem seen_of_bystanders {o : Object} (h : Interleaving l others t)
    (bystanders : ∀ e ∈ others, IsBystander ns e)
    (stored : (Part.objectAt (credentialsAddress ns)).Admits (some o) t) :
    (∀ e ∈ others, e.storedAt? (credentialsAddress ns) = none) ∧
      (Part.objectAt (credentialsAddress ns)).run (some o) t =
        (Part.objectAt (credentialsAddress ns)).run (some o) l ∧
      (Part.objectAt (credentialsAddress ns)).Admits (some o) l := by
  have unstored : ∀ e ∈ others, e.storedAt? (credentialsAddress ns) = none := fun e he =>
    Part.unstored_of_admits stored (h.mem_iff.2 (.inr he)) (bystanders e he).notApplied
  obtain ⟨final, admitted⟩ := Part.interleaving (P := .objectAt (credentialsAddress ns)) h
    (fun e he => Part.objectAt_ignores (unstored e he)) (some o)
  exact ⟨unstored, final, admitted stored⟩

theorem holdsUser_keepingStatus {o : Object} (h : HoldsUser user (some o)) (old : Option Object) :
    HoldsUser user (some (o.keepingStatus old)) := by
  cases o with
  | secret s => rwa [Object.keepingStatus_secret]
  | _ => cases h

/-- Once a user's credentials are held, they are held as long as none but the user's are stored. -/
theorem holdsUser_run (holds : HoldsUser user old)
    (declared : ∀ e ∈ t, ∀ o, e.storedAt? (credentialsAddress ns) = some o → HoldsUser user (some o)) :
    HoldsUser user ((Part.objectAt (credentialsAddress ns)).run old t) := by
  induction t generalizing old with
  | nil => exact holds
  | cons e t ih =>
    refine ih ?_ fun e he => declared e (by simp [he])
    cases stores : e.storedAt? (credentialsAddress ns) with
    | none => rwa [Part.objectAt_ignores stores]
    | some o =>
      rw [Part.objectAt_after_of_stored stores]
      exact holdsUser_keepingStatus (declared e (by simp) o stores) old

/-- While only a user's credentials are stored, a replacement of pods is since their last change. -/
theorem restartedSince_of_mem {start : Option Object} {before : List Event}
    (holds : HoldsUser user ((Part.objectAt (credentialsAddress ns)).run start before))
    (declared : ∀ e ∈ t, ∀ o, e.storedAt? (credentialsAddress ns) = some o → HoldsUser user (some o))
    (pods : restarted ns PortManager.name ∈ t) : RestartedSince ns start (before ++ t) := by
  obtain ⟨t₁, t₂, rfl⟩ := List.append_of_mem pods
  refine ⟨before ++ t₁, t₂, by simp, ?_⟩
  rintro u v rfl
  have now : HoldsUser user ((Part.objectAt (credentialsAddress ns)).run start
      (before ++ t₁ ++ restarted ns PortManager.name :: u)) := by
    rw [List.append_assoc, Part.run_append]
    refine holdsUser_run holds fun e he => declared e ?_
    rcases List.mem_append.1 he with he | he
    · exact List.mem_append_left _ he
    · exact List.mem_append_right t₁ (by rw [← List.cons_append]; exact List.mem_append_left v he)
  have final : HoldsUser user ((Part.objectAt (credentialsAddress ns)).run start
      (before ++ (t₁ ++ restarted ns PortManager.name :: (u ++ v)))) := by
    rw [Part.run_append]
    exact holdsUser_run holds declared
  exact now.trans final.symm

end Beside

theorem heldPassword?_of_holdsUser {held : Option Object} (h : HoldsUser user held) :
    heldPassword? held = some user.password.encoded := by
  unfold HoldsUser heldCredentials? at h
  simp only [Option.bind_eq_bind, Option.bind_eq_some_iff, Option.pure_def, Option.some.injEq,
    Prod.mk.injEq] at h
  obtain ⟨secret, hsecret, email, -, password, hpassword, -, eq⟩ := h
  simp only [heldPassword?, Option.bind_eq_some_iff]
  exact ⟨secret, hsecret, by rw [hpassword, ← eq]⟩

section Change

variable {t₁ u others : List Event} {found start : Option Object} {previous : Credential}
  {held : AccessToken} {a : Accounts}

/-- The interface knows a user with the declared password once it was changed. -/
theorem known_of_changeCalls (known : (Part.accountsAt (internalUrl ns)).Admits a
      (t₁ ++ (changeCalls ns user found previous held ++ u))) :
    ∃ a', (Part.accountsAt (internalUrl ns)).Admits a' u ∧
      a'.users.get? user.email = some user.password.decode := by
  rw [Part.admits_append] at known
  obtain ⟨-, -, -, -, rest⟩ := known
  refine ⟨_, rest, ?_⟩
  simp [Accounts.change]

/-- Where a password was changed, what follows finds the port manager's credentials as they were, and
nobody else stores any. -/
theorem split_changeCalls
    (interleaved : Interleaving (t₁ ++ (changeCalls ns user found previous held ++ u)) others t)
    (bystanders : ∀ e ∈ others, IsBystander ns e) (holds : heldPassword? found = some previous.encoded)
    (stored : (Part.objectAt (credentialsAddress ns)).Admits start t) :
    ∃ w₁ w₂ r, t = w₁ ++ w₂ ∧ (Part.objectAt (credentialsAddress ns)).run start w₁ = found ∧
      (Part.objectAt (credentialsAddress ns)).Admits found u ∧ Interleaving u r w₂ ∧
      ∀ e ∈ r, e.storedAt? (credentialsAddress ns) = none := by
  obtain ⟨r₁, r₂, x₁, x₂, rfl, rfl, -, looked⟩ := interleaved.split
  rw [Part.admits_append, Part.admits_cons] at stored
  obtain ⟨-, fits, stored⟩ := stored
  have now : found = (Part.objectAt (credentialsAddress ns)).run start x₁ := fits rfl
  cases found with
  | none => cases holds
  | some o =>
    have look : (⟨.get (credentialsAddress ns), .ok (some o)⟩ : Event).storedAt?
        (credentialsAddress ns) = none := rfl
    rw [Part.objectAt_ignores look, ← now] at stored
    obtain ⟨unstored, -, seen⟩ :=
      seen_of_bystanders looked (fun e he => bystanders e (by simp [he])) stored
    let login : Event := ⟨.logIn (internalUrl ns) ⟨user.email, previous.decode⟩, .ok held⟩
    let change : Event := ⟨.changePassword (internalUrl ns) held.accessToken
      ⟨previous.decode, user.password.decode⟩, .ok ()⟩
    have changed : Interleaving ([login] ++ change :: u) r₂ x₂ := looked
    obtain ⟨r₃, r₄, x₃, x₄, rfl, rfl, loggedIn, rest⟩ := changed.split
    refine ⟨x₁ ++ ⟨.get (credentialsAddress ns), .ok (some o)⟩ :: (x₃ ++ [change]), x₄, r₄, by simp, ?_,
      seen.2.2, rest, fun e he => unstored e (by simp [he])⟩
    have quiet : ∀ e ∈ x₃, e.storedAt? (credentialsAddress ns) = none := by
      intro e he
      rcases loggedIn.mem_iff.1 he with he | he
      · obtain rfl := List.mem_singleton.1 he
        rfl
      · exact unstored e (by simp [he])
    rw [Part.run_append, ← now, Part.run_cons, Part.run_append,
      Part.objectAt_run_of_nil (List.filterMap_eq_nil_iff.2 quiet)]
    rfl

/-- Where the credentials are not stored after a change of the password, they stay outdated for good. -/
theorem not_holdsUser_of_unsaved {rounds : List (Round settings)} {t₂ : List Event}
    (interleaved : Interleaving (t₁ ++ (changeCalls ns user found previous held ++
      (t₂ ++ history rounds))) others t)
    (bystanders : ∀ e ∈ others, IsBystander ns e) (holds : heldPassword? found = some previous.encoded)
    (stored : (Part.objectAt (credentialsAddress ns)).Admits start t)
    (known : (Part.accountsAt (internalUrl ns)).Admits a t)
    (home : ∀ r ∈ rounds, r.cp.metadata.namespaceName = some ns)
    (same : ∀ r ∈ rounds, r.cp.spec.user = user)
    (other : previous.decode ≠ user.password.decode) (users : ∀ e ∈ t₂, LeavesUsers ns e)
    (unsaved : ∀ e ∈ t₂, IsAhead ns e) :
    ¬ HoldsUser user ((Part.objectAt (credentialsAddress ns)).run start t) := by
  obtain ⟨a', known', knows⟩ := known_of_changeCalls
    ((Part.interleaving (P := .accountsAt (internalUrl ns)) interleaved
      (fun e he => Part.accountsAt_ignores (bystanders e he).account) a).2 known)
  obtain ⟨w₁, w₂, r, rfl, now, seen, rest, unstored⟩ :=
    split_changeCalls interleaved bystanders holds stored
  have ahead : ∀ e ∈ t₂, e.storedAt? (credentialsAddress ns) = none := fun e he => (unsaved e he).1
  rw [Part.admits_append] at known' seen
  rw [Part.objectAt_run_of_nil (List.filterMap_eq_nil_iff.2 ahead)] at seen
  have outdated : Outdated user found ((Part.accountsAt (internalUrl ns)).run a' t₂) :=
    ⟨⟨previous, holds, other⟩, by rw [users_of_leaves users]; exact knows⟩
  have neutral := outdated.neutral_history home same seen.2 known'.2
  have final : (Part.objectAt (credentialsAddress ns)).run start (w₁ ++ w₂) = found := by
    rw [Part.run_append, now]
    refine Part.objectAt_run_of_nil (List.filterMap_eq_nil_iff.2 fun e he => ?_)
    rcases rest.mem_iff.1 he with he | he
    · exact (List.mem_append.1 he).elim (ahead e) fun he => (neutral e he).unstored
    · exact unstored e he
  rw [final]
  intro holdsUser
  have eq := Option.some.inj (holds.symm.trans (heldPassword?_of_holdsUser holdsUser))
  exact other (congrArg (fun encoded => Credential.decode ⟨encoded⟩) eq)

/-- Where the credentials are stored after a change of the password, they stay as they are declared, and
pods that are replaced are replaced since. -/
theorem rotated_of_saved {t₂ t₃ : List Event} {e : Event} {o : Object}
    (interleaved : Interleaving (t₁ ++ (changeCalls ns user found previous held ++
      (t₂ ++ e :: t₃))) others t)
    (bystanders : ∀ e ∈ others, IsBystander ns e) (holds : heldPassword? found = some previous.encoded)
    (stored : (Part.objectAt (credentialsAddress ns)).Admits start t)
    (stores : e.storedAt? (credentialsAddress ns) = some o)
    (declared : ∀ e' ∈ e :: t₃, ∀ o, e'.storedAt? (credentialsAddress ns) = some o →
      HoldsUser user (some o)) :
    HoldsUser user ((Part.objectAt (credentialsAddress ns)).run start t) ∧
      (restarted ns PortManager.name ∈ t₃ → RestartedSince ns start t) := by
  obtain ⟨w₁, w₂, r, rfl, -, -, rest, unstored⟩ :=
    split_changeCalls interleaved bystanders holds stored
  obtain ⟨r₁, r₂, x₁, x₂, rfl, rfl, -, after⟩ := rest.split
  have now : HoldsUser user
      ((Part.objectAt (credentialsAddress ns)).run start (w₁ ++ (x₁ ++ [e]))) := by
    rw [Part.run_append, Part.run_append, Part.run_cons, Part.objectAt_after_of_stored stores]
    exact holdsUser_keepingStatus (declared e (by simp) o stores) _
  have declaredAfter : ∀ e' ∈ x₂, ∀ o, e'.storedAt? (credentialsAddress ns) = some o →
      HoldsUser user (some o) := by
    intro e' he o' stores'
    rcases after.mem_iff.1 he with he | he
    · exact declared e' (by simp [he]) o' stores'
    · rw [unstored e' (by simp [he])] at stores'
      cases stores'
  have whole : w₁ ++ (x₁ ++ e :: x₂) = w₁ ++ (x₁ ++ [e]) ++ x₂ := by simp
  rw [whole]
  refine ⟨?_, fun pods => restartedSince_of_mem now declaredAfter (after.mem_iff.2 (.inl pods))⟩
  rw [Part.run_append]
  exact holdsUser_run now declaredAfter

end Change

/-- Only rounds replace pods of the port manager, after the first one only those that were refused. -/
theorem restarted_mem_iff {crashed : Round settings} {later : List (Round settings)}
    {others : List Event} (home : ∀ r ∈ later, r.cp.metadata.namespaceName = some ns)
    (interleaved : Interleaving (history (crashed :: later)) others t)
    (bystanders : ∀ e ∈ others, IsBystander ns e) :
    restarted ns PortManager.name ∈ t ↔ restarted ns PortManager.name ∈ crashed.trace ∨
      ∃ r ∈ later, r.IsRefused ns ∧ restarted ns PortManager.name ∈ r.trace := by
  rw [interleaved.mem_iff, history_cons, List.mem_append, mem_history,
    or_iff_left fun he => (bystanders _ he).notRestarted rfl]
  refine or_congr_right (exists_congr fun r => and_congr_right fun hr => ?_)
  exact ⟨fun h => ⟨r.refused_of_restarted (home r hr) h, h⟩, And.right⟩

/-- After a round that changed the password, rounds that declare the same user bring the change everywhere
exactly if the first one stored the new credentials, and if pods of the port manager were replaced at all,
unless there are none. -/
theorem rotated_iff_restarted {crashed : Round settings} {later : List (Round settings)}
    {others : List Event} {start deployment : Option Object} {a : Accounts}
    (home : ∀ r ∈ crashed :: later, r.cp.metadata.namespaceName = some ns)
    (same : ∀ r ∈ later, r.cp.spec.user = crashed.cp.spec.user)
    (changes : ∃ e ∈ crashed.trace, isPasswordChange (internalUrl ns) e)
    (interleaved : Interleaving (history (crashed :: later)) others t)
    (bystanders : ∀ e ∈ others, IsBystander ns e)
    (stored : (Part.objectAt (credentialsAddress ns)).Admits start t)
    (known : (Part.accountsAt (internalUrl ns)).Admits a t) :
    Rotated ns crashed.cp.spec.user start deployment t ↔ crashed.Saves ns ∧
      ((Part.objectAt (portManagerAddress ns)).run deployment t = none ∨
        restarted ns PortManager.name ∈ t) := by
  have homes : ∀ r ∈ later, r.cp.metadata.namespaceName = some ns := fun r hr => home r (by simp [hr])
  have declared : ∀ e ∈ history (crashed :: later), ∀ o,
      e.storedAt? (credentialsAddress ns) = some o → HoldsUser crashed.cp.spec.user (some o) := by
    intro e he o stores
    obtain ⟨r, hr, he⟩ := mem_history.1 he
    have user : r.cp.spec.user = crashed.cp.spec.user := by
      rcases List.mem_cons.1 hr with rfl | hr
      · rfl
      · exact same r hr
    exact user ▸ r.stores_declared (home r hr) he stores
  rw [Rotated]
  have moves := crashed.moves (home crashed (by simp)) changes
  generalize hown : crashed.trace = own at moves
  obtain ⟨t₁, t₂, found, previous, held, holds, other, before, users, after⟩ := moves
  have run : history (crashed :: later) =
      t₁ ++ (changeCalls ns crashed.cp.spec.user found previous held ++ (t₂ ++ history later)) := by
    rw [history_cons, hown]
    simp only [List.append_assoc]
  have early : ∀ e ∈ t₁ ++ changeCalls ns crashed.cp.spec.user found previous held, IsAhead ns e :=
    fun e he => (List.mem_append.1 he).elim (before e) (ahead_changeCalls e)
  rcases after with unsaved | ⟨u, e, o, v, rfl, ahead, stores⟩
  · have all : ∀ e ∈ crashed.trace, IsAhead ns e := by
      intro e he
      rw [hown, ← List.append_assoc] at he
      exact (List.mem_append.1 he).elim (early e) (unsaved e)
    rw [run] at interleaved
    exact iff_of_false (fun h => not_holdsUser_of_unsaved interleaved bystanders holds stored known
      homes same other users unsaved h.1) fun h => crashed.not_saves all h.1
  · have whole : history (crashed :: later) = t₁ ++ (changeCalls ns crashed.cp.spec.user found previous
        held ++ (u ++ e :: (v ++ history later))) := by
      rw [run]
      simp only [List.append_assoc, List.cons_append]
    rw [whole] at declared
    obtain ⟨holdsUser, since⟩ := rotated_of_saved (whole ▸ interleaved) bystanders holds stored stores
      fun e' he => declared e' (by
        simp only [List.mem_append]
        exact .inr (.inr (.inr he)))
    have saves : crashed.Saves ns := ⟨e, by simp [hown], by simp [stores]⟩
    refine and_congr (iff_of_true holdsUser saves) (or_congr_right ⟨?_, fun pods => since ?_⟩)
    · rintro ⟨x₁, x₂, rfl, -⟩
      simp
    · -- Pods are replaced after the credentials are stored.
      have mem := (interleaved.mem_iff.1 pods).resolve_right
        fun he => (bystanders _ he).notRestarted rfl
      rw [whole, ← List.append_assoc] at mem
      rcases List.mem_append.1 mem with he | he
      · exact ((early _ he).2 rfl).elim
      rcases List.mem_append.1 he with he | he
      · exact ((ahead _ he).2 rfl).elim
      rcases List.mem_cons.1 he with rfl | he
      · cases stores
      · exact he

/-- After a pass that changed the password, rounds that declare the same user bring the change everywhere
exactly if that very pass stored the new credentials, and if it replaced the pods of the port manager too,
unless there are none, or the interface refuses a later round the password that it was changed to. -/
theorem rotated_iff {crashed : Round settings} {later : List (Round settings)} {others : List Event}
    {start deployment : Option Object} {a : Accounts}
    (home : ∀ r ∈ crashed :: later, r.cp.metadata.namespaceName = some ns)
    (same : ∀ r ∈ later, r.cp.spec.user = crashed.cp.spec.user)
    (changes : ∃ e ∈ crashed.trace, isPasswordChange (internalUrl ns) e)
    (interleaved : Interleaving (history (crashed :: later)) others t)
    (bystanders : ∀ e ∈ others, IsBystander ns e)
    (stored : (Part.objectAt (credentialsAddress ns)).Admits start t)
    (known : (Part.accountsAt (internalUrl ns)).Admits a t) :
    Rotated ns crashed.cp.spec.user start deployment t ↔ crashed.Saves ns ∧
      ((Part.objectAt (portManagerAddress ns)).run deployment t = none ∨
        restarted ns PortManager.name ∈ crashed.trace ∨
        ∃ r ∈ later, r.IsRefused ns ∧ restarted ns PortManager.name ∈ r.trace) := by
  rw [← restarted_mem_iff (fun r hr => home r (by simp [hr])) interleaved bystanders]
  exact rotated_iff_restarted home same changes interleaved bystanders stored known

/-- A visit that replaces pods of the port manager does so in its round, which was refused. -/
theorem Visits.refused_of_restarted {name : String} {o : Outcome} (visit : Visits settings ns name t o)
    (home : ∀ p : Pass settings ns name t, p.cp.metadata.namespaceName = some ns)
    (h : restarted ns PortManager.name ∈ t) : ∃ p : Pass settings ns name t, p.round.IsRefused ns := by
  rcases visit.idle_or_pass with idle | ⟨⟨p⟩⟩
  · exact ((bystander_of_bookkeeping (idle _ h).1).notRestarted rfl).elim
  · obtain ⟨others, around, elsewhere⟩ := p.around_round
    have inside := (around.mem_iff.1 h).resolve_right
      fun he => ((elsewhere _ he).bystander ns).notRestarted rfl
    exact ⟨p, p.round.refused_of_restarted (home p) inside⟩

/-- The same of whole visits: after one that changed the password, visits that find the same user declared
bring the change everywhere exactly if the round of that very visit stored the new credentials, and if it
replaced the pods of the port manager too, unless there are none, or a later round is refused. -/
theorem rotated_iff_of_visits {name : String} {t₀ : List Event} {later : List (List Event)}
    {start deployment : Option Object} {a : Accounts} (crashed : Pass settings ns name t₀)
    (home : crashed.cp.metadata.namespaceName = some ns)
    (visited : ∀ t ∈ later, ∃ o, Visits settings ns name t o)
    (same : ∀ t ∈ later, ∀ p : Pass settings ns name t,
      p.cp.metadata.namespaceName = some ns ∧ p.cp.spec.user = crashed.cp.spec.user)
    (changes : ∃ e ∈ t₀, isPasswordChange (internalUrl ns) e)
    (stored : (Part.objectAt (credentialsAddress ns)).Admits start (t₀ ++ later.flatten))
    (known : (Part.accountsAt (internalUrl ns)).Admits a (t₀ ++ later.flatten)) :
    Rotated ns crashed.cp.spec.user start deployment (t₀ ++ later.flatten) ↔ crashed.round.Saves ns ∧
      ((Part.objectAt (portManagerAddress ns)).run deployment (t₀ ++ later.flatten) = none ∨
        restarted ns PortManager.name ∈ t₀ ∨
        ∃ t ∈ later, (∃ p : Pass settings ns name t, p.round.IsRefused ns) ∧
          restarted ns PortManager.name ∈ t) := by
  obtain ⟨beside, around, besideElsewhere⟩ := crashed.around_round
  obtain ⟨rounds, others, apart, declared, elsewhere⟩ := exists_rounds (P := fun cp =>
    cp.metadata.namespaceName = some ns ∧ cp.spec.user = crashed.cp.spec.user) visited same
  have whole : Interleaving (history (crashed.round :: rounds)) (beside ++ others)
      (t₀ ++ later.flatten) := around.append apart
  have bystanders : ∀ e ∈ beside ++ others, IsBystander ns e := fun e he =>
    (List.mem_append.1 he).elim (fun h => (besideElsewhere e h).bystander ns)
      fun h => (elsewhere e h).bystander ns
  have homes : ∀ r ∈ crashed.round :: rounds, r.cp.metadata.namespaceName = some ns :=
    List.forall_mem_cons.2 ⟨home, fun r hr => (declared r hr).1⟩
  have changesHere : ∃ e ∈ crashed.round.trace, isPasswordChange (internalUrl ns) e := by
    obtain ⟨e, he, change⟩ := changes
    refine ⟨e, (around.mem_iff.1 he).resolve_right fun outside => ?_, change⟩
    rw [not_passwordChange ((besideElsewhere e outside).bystander ns).account] at change
    cases change
  have pods : restarted ns PortManager.name ∈ t₀ ++ later.flatten ↔ restarted ns PortManager.name ∈ t₀ ∨
      ∃ t ∈ later, (∃ p : Pass settings ns name t, p.round.IsRefused ns) ∧
        restarted ns PortManager.name ∈ t := by
    rw [List.mem_append, List.mem_flatten]
    refine or_congr_right (exists_congr fun t => and_congr_right fun ht => ?_)
    obtain ⟨o, visit⟩ := visited t ht
    exact ⟨fun h => ⟨visit.refused_of_restarted (fun p => (same t ht p).1) h, h⟩, And.right⟩
  rw [← pods]
  exact rotated_iff_restarted homes (fun r hr => (declared r hr).2) changesHere whole bystanders stored
    known

/-- A control plane whose password has changed. -/
def changedPassword : ControlPlane := plainControlPlane "a@b.c" (.ofPlain "two") {}

/-- The credentials from before it changed. -/
def oldCredentials : Secret := PortManager.credentialsSecret "ns" "a@b.c" (.ofPlain "one")

/-- The port manager from before. -/
def oldPortManager : Object := .deployment { metadata := .named "ns" PortManager.name }

/-- A world in which all is deployed, whose credentials cannot be replaced at first. -/
def rotatingWorld : World where
  cluster := ((({} : Cluster).insert (.secret oldCredentials)).insert oldPortManager).insert
    (.deployment { metadata := .named "ns" Controller.name })
  apis := Dict.insert {} (internalUrl "ns") (ApiServer.addUser {} "a@b.c" "one")
  faults := [⟨"apply Secret ns/controller-credentials", 0, 1, .reconciliation "unavailable",
    .transport false "lost"⟩]

/-- The pass that changes the password and fails after that. -/
def crashedRound : Round .standard := controllerRound .standard rotatingWorld changedPassword

/-- The pass after that. -/
def cleanRound : Round .standard :=
  controllerRound .standard (rotatingWorld.run (controller .standard changedPassword)).2 changedPassword

theorem rounds_rotatingWorld : [crashedRound, cleanRound] =
    roundsIn .standard rotatingWorld [changedPassword, changedPassword] := rfl

theorem home_cleanRound : ∀ r ∈ [crashedRound, cleanRound],
    r.cp.metadata.namespaceName = some "ns" := by
  intro r hr
  simp only [List.mem_cons, List.not_mem_nil, or_false] at hr
  rcases hr with rfl | rfl <;> rfl

theorem user_crashedRound : crashedRound.cp.spec.user = changedPassword.spec.user := rfl

theorem user_cleanRound : cleanRound.cp.spec.user = changedPassword.spec.user := rfl

theorem same_cleanRound : ∀ r ∈ [cleanRound], r.cp.spec.user = crashedRound.cp.spec.user := by
  intro r hr
  rw [List.mem_singleton.1 hr, user_cleanRound, user_crashedRound]

/-- The first pass changes the password and fails, the second one has a clean outcome, and the old
password is still stored after that. -/
theorem run_rotatingWorld :
    crashedRound.trace.any (isPasswordChange (internalUrl "ns")) = true ∧
    crashedRound.outcome.failure.isSome = true ∧ cleanRound.outcome.isClean = true ∧
    heldCredentials? ((Part.objectAt (credentialsAddress "ns")).run (some (.secret oldCredentials))
      (history [crashedRound, cleanRound])) = some ("a@b.c", .ofPlain "one") := by
  decide +kernel

theorem changes_crashedRound :
    ∃ e ∈ crashedRound.trace, isPasswordChange (internalUrl "ns") e :=
  List.any_eq_true.1 run_rotatingWorld.1

theorem rotated_iff_crashedRound :
    (∀ r ∈ [crashedRound, cleanRound], r.cp.metadata.namespaceName = some "ns") ∧
    (∀ r ∈ [cleanRound], r.cp.spec.user = crashedRound.cp.spec.user) ∧
    (∃ e ∈ crashedRound.trace, isPasswordChange (internalUrl "ns") e) ∧
    Interleaving (history [crashedRound, cleanRound]) [] (history [crashedRound, cleanRound]) ∧
    (Part.objectAt (credentialsAddress "ns")).Admits (some (.secret oldCredentials))
      (history [crashedRound, cleanRound]) ∧
    (Part.accountsAt (internalUrl "ns")).Admits (rotatingWorld.accounts (internalUrl "ns"))
      (history [crashedRound, cleanRound]) ∧
    (Rotated "ns" crashedRound.cp.spec.user (some (.secret oldCredentials)) (some oldPortManager)
        (history [crashedRound, cleanRound]) ↔ crashedRound.Saves "ns" ∧
      ((Part.objectAt (portManagerAddress "ns")).run (some oldPortManager)
          (history [crashedRound, cleanRound]) = none ∨
        restarted "ns" PortManager.name ∈ crashedRound.trace ∨
        ∃ r ∈ [cleanRound], r.IsRefused "ns" ∧ restarted "ns" PortManager.name ∈ r.trace)) := by
  have alone := (Interleaving.nil_left (history [crashedRound, cleanRound])).swap
  have stored := objectAt_roundsIn .standard rotatingWorld [changedPassword, changedPassword]
    (credentialsAddress "ns")
  have known := accountsAt_roundsIn .standard rotatingWorld [changedPassword, changedPassword]
    (internalUrl "ns")
  rw [← rounds_rotatingWorld] at stored known
  exact ⟨home_cleanRound, same_cleanRound, changes_crashedRound, alone, stored, known,
    rotated_iff home_cleanRound same_cleanRound changes_crashedRound alone (by simp) stored known⟩

/-- A change of the password can get stuck: the pass that makes it fails before the credentials are
stored, and the next one has a clean outcome without storing them. -/
theorem rotation_lost : ¬ ∀ (start deployment : Object) (a : Accounts)
    (crashed later : Round .standard),
    (∀ r ∈ [crashed, later], r.cp.metadata.namespaceName = some "ns") →
    later.cp.spec.user = crashed.cp.spec.user →
    (∃ e ∈ crashed.trace, isPasswordChange (internalUrl "ns") e) →
    (Part.objectAt (credentialsAddress "ns")).Admits (some start) (history [crashed, later]) →
    (Part.objectAt (portManagerAddress "ns")).Admits (some deployment) (history [crashed, later]) →
    (Part.accountsAt (internalUrl "ns")).Admits a (history [crashed, later]) →
    crashed.outcome.failure.isSome → later.outcome.isClean →
    Rotated "ns" crashed.cp.spec.user (some start) (some deployment) (history [crashed, later]) := by
  intro assured
  have stored (a : Address) := objectAt_roundsIn .standard rotatingWorld
    [changedPassword, changedPassword] a
  have known := accountsAt_roundsIn .standard rotatingWorld [changedPassword, changedPassword]
    (internalUrl "ns")
  rw [← rounds_rotatingWorld] at stored known
  obtain ⟨-, crash, clean, held⟩ := run_rotatingWorld
  have rotated := assured _ _ _ crashedRound cleanRound home_cleanRound
    (same_cleanRound cleanRound (by simp)) changes_crashedRound (stored (credentialsAddress "ns"))
    (stored (portManagerAddress "ns")) known crash clean
  have now := rotated.1.symm.trans held
  rw [user_crashedRound] at now
  exact absurd now (by decide +kernel)

end EdgePlane.Reconcile
