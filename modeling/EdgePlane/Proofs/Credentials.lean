import EdgePlane.Proofs.ControllerTrace
import EdgePlane.Proofs.Happening

/-!
# The credentials of the port manager

The port manager logs in with credentials that are stored once, by the first pass. The user whom they
name is registered by a later pass, as it is declared then. The two agree only if a pass registers just
the user whom the credentials name, with the password that they hold, or replaces the credentials when it
changes the password.
-/

namespace EdgePlane.Reconcile

open Kubernetes Management Simulation

variable {settings : Setup} {target : Target} {user : ControlPlane.User} {ns : String}
  {held : Option Object} {t : List Event}

/-- The address and the password that an object holds for the port manager. -/
def heldCredentials? (o : Option Object) : Option (String × Credential) := do
  let secret ← o.bind (·.secret?)
  let email ← secret.text? PortManager.emailKey
  let password ← secret.text? PortManager.passwordKey
  return (email, ⟨password⟩)

theorem heldCredentials?_credentialsOf (target : Target) (user : ControlPlane.User) :
    heldCredentials? (some ((credentialsOf target user).ownedBy target.owner)) =
      some (user.email, user.password) := rfl

/-- Whether the credentials that are held are those of a user. -/
def Works (held : Option Object) (users : Dict String String) : Prop :=
  ∃ email password, heldCredentials? held = some (email, password) ∧
    users.get? email = some password.decode

/-- Whether an event makes the credentials that are held work: it registers the user whom they name
with the password that they hold, or it replaces them. -/
def PutsInStep (ns : String) (held : Option Object) : Event → Prop
  | ⟨.signUp url r, .ok _⟩ => url = internalUrl ns ∧
    ∃ password, heldCredentials? held = some (r.email, password) ∧ password.decode = r.password
  | ⟨.apply o, .ok _⟩ => o.address = credentialsAddress ns
  | _ => False

/-- A new user changes whether the credentials work only if they are that user's. -/
theorem works_insert {users : Dict String String} {email password : String}
    (fresh : users.get? email = none) :
    Works held (users.insert email password) ↔ Works held users ∨
      ∃ p, heldCredentials? held = some (email, p) ∧ p.decode = password := by
  constructor
  · rintro ⟨e, p, hheld, h⟩
    rw [Dict.get?_insert] at h
    split at h
    · rename_i same
      subst same
      exact .inr ⟨p, hheld, (Option.some.inj h).symm⟩
    · exact .inl ⟨e, p, hheld, h⟩
  · rintro (⟨e, p, hheld, h⟩ | ⟨p, hheld, rfl⟩)
    · refine ⟨e, p, hheld, ?_⟩
      rw [Dict.get?_insert, if_neg, h]
      rintro rfl
      rw [h] at fresh
      cases fresh
    · exact ⟨email, p, hheld, by rw [Dict.get?_insert, if_pos rfl]⟩

/-- Only these calls can put credentials in step. -/
theorem not_putsInStep {e : Event} (account : ∀ r, e.call ≠ .signUp (internalUrl ns) r)
    (apply : ∀ o, e.call = .apply o → o.address ≠ credentialsAddress ns) : ¬ PutsInStep ns held e := by
  obtain ⟨c, r⟩ := e
  cases c with
  | signUp url request =>
    cases r with
    | ok u =>
      rintro ⟨rfl, -⟩
      exact account request rfl
    | error e => exact id
  | apply o =>
    cases r with
    | ok u => exact apply o rfl
    | error e => exact id
  | _ => exact id

/-- Whether an event leaves the users of the interface of a namespace as they are. -/
def LeavesUsers (ns : String) (e : Event) : Prop :=
  ∀ a, ((Part.accountsAt (internalUrl ns)).after a e).users = a.users

theorem users_of_leaves (h : ∀ e ∈ t, LeavesUsers ns e) (a : Accounts) :
    ((Part.accountsAt (internalUrl ns)).run a t).users = a.users := by
  induction t generalizing a with
  | nil => rfl
  | cons e t ih =>
    rw [Part.run_cons, ih fun e he => h e (by simp [he])]
    exact h e (by simp) a

/-- Whether an event has no bearing on credentials of the port manager: it neither stores them nor
changes whom the interface knows. -/
structure IsNeutral (ns : String) (e : Event) : Prop where
  unstored : e.storedAt? (credentialsAddress ns) = none
  users : LeavesUsers ns e
  noStep : ∀ held, ¬ PutsInStep ns held e

theorem users_of_neutral (h : ∀ e ∈ t, IsNeutral ns e) (a : Accounts) :
    ((Part.accountsAt (internalUrl ns)).run a t).users = a.users :=
  users_of_leaves (fun e he => (h e he).users) a

theorem held_of_neutral (h : ∀ e ∈ t, IsNeutral ns e) (held : Option Object) :
    (Part.objectAt (credentialsAddress ns)).run held t = held :=
  Part.objectAt_run_of_nil (List.filterMap_eq_nil_iff.2 fun e he => (h e he).unstored)

/-- A trace tells whether the credentials work in the end: they worked before, or some event put them in
step. -/
def Tells (ns : String) (held : Option Object) (a : Accounts) (t : List Event) : Prop :=
  Works ((Part.objectAt (credentialsAddress ns)).run held t)
      ((Part.accountsAt (internalUrl ns)).run a t).users ↔
    Works held a.users ∨ ∃ e ∈ t, PutsInStep ns held e

/-- Neutral events leave it as it is whether the credentials work. -/
theorem tells_of_neutral (h : ∀ e ∈ t, IsNeutral ns e) (held : Option Object) (a : Accounts) :
    Tells ns held a t := by
  rw [Tells, users_of_neutral h, held_of_neutral h, iff_self_or]
  rintro ⟨e, he, step⟩
  exact ((h e he).noStep held step).elim

theorem neutral_get (a : Address) (r : Except Failure (Option Object)) :
    IsNeutral ns ⟨.get a, r⟩ :=
  ⟨rfl, fun _ => rfl, fun _ => not_putsInStep (by simp) (by simp)⟩

theorem neutral_signUp_error (r : SignUp) (e : ApiError) :
    IsNeutral ns ⟨.signUp (internalUrl ns) r, .error e⟩ := ⟨rfl, fun _ => rfl, fun _ => id⟩

theorem neutral_logIn (r : LogIn) (answer : Except ApiError AccessToken) :
    IsNeutral ns ⟨.logIn (internalUrl ns) r, answer⟩ := by
  refine ⟨rfl, fun a => ?_, fun _ => not_putsInStep (by simp) (by simp)⟩
  cases answer <;> simp

theorem neutral_change_error (token : String) (r : PasswordChange) (e : ApiError) :
    IsNeutral ns ⟨.changePassword (internalUrl ns) token r, .error e⟩ :=
  ⟨rfl, fun _ => rfl, fun _ => not_putsInStep (by simp) (by simp)⟩

/-- Whether an event has nothing to do with credentials and accounts. -/
structure IsAside (ns : String) (e : Event) : Prop where
  unstored : e.storedAt? (credentialsAddress ns) = none
  ignored : (Part.accountsAt (internalUrl ns)).Ignores e
  noStep : ∀ held, ¬ PutsInStep ns held e

theorem IsAside.neutral {e : Event} (h : IsAside ns e) : IsNeutral ns e :=
  ⟨h.unstored, fun a => congrArg Accounts.users (h.ignored a), h.noStep⟩

theorem aside_of_within {W : Object → Prop} {e : Event} (h : e.call.Within W)
    (apart : ∀ o, W o → o.address ≠ credentialsAddress ns) : IsAside ns e := by
  have account := not_account_of_within h (internalUrl ns)
  refine ⟨storedAt_of_within h apart, Part.accountsAt_ignores account, fun held =>
    not_putsInStep (fun r heq => ?_) fun o heq => ?_⟩
  · simp [heq, Call.isAccountAt] at account
  · rcases h with quiet | ⟨o', stores, ho⟩
    · simp [heq, Call.isQuiet] at quiet
    · obtain rfl : o = o' := by simpa [heq, Call.stores?] using stores
      exact apart o ho

/-- What the controller's part does outside of sessions has nothing to do with them. -/
theorem aside_of_beside {e : Event} (h : e.call.IsBeside ns) : IsAside ns e := by
  have unstored : e.storedAt? (credentialsAddress ns) = none :=
    storedAt_of_beside h (show PortManager.credentialsSecretName ∉ ownNames by decide)
  obtain ⟨c, r⟩ := e
  rcases h with within | rfl | registers
  · refine aside_of_within within fun o ho heq => ?_
    simp [heq, ownNames, credentialsAddress, PortManager.credentialsSecretName,
      Controller.databaseSecretName, Controller.claimName, Controller.name] at ho
  · exact ⟨unstored, fun _ => rfl, fun _ => not_putsInStep (by simp) (by simp)⟩
  · cases c with
    | putRouter url token router =>
      exact ⟨unstored, fun a => by simp, fun _ => not_putsInStep (by simp) (by simp)⟩
    | _ => simp [Call.isRegistration] at registers

theorem aside_of_bookkeeping {e : Event} (h : e.call.isBookkeeping) : IsAside ns e := by
  refine ⟨storedAt_of_bookkeeping h _, Part.accountsAt_ignores (not_account_of_bookkeeping h _),
    fun held => not_putsInStep (fun r heq => ?_) fun o heq => ?_⟩ <;>
    simp [heq, Call.isBookkeeping] at h

/-- What has nothing to do with credentials and accounts does not count. -/
theorem tells_interleaving {l r : List Event} {a : Accounts} (h : Interleaving l r t)
    (aside : ∀ e ∈ r, IsAside ns e) (tells : Tells ns held a l) : Tells ns held a t := by
  have credentials := (Part.interleaving (P := .objectAt (credentialsAddress ns)) h
    (fun e he => Part.objectAt_ignores (aside e he).unstored) held).1
  have accounts := (Part.interleaving (P := .accountsAt (internalUrl ns)) h
    (fun e he => (aside e he).ignored) a).1
  rw [Tells, credentials, accounts]
  refine Iff.trans tells (or_congr_right ⟨fun ⟨e, he, step⟩ => ⟨e, h.mem_iff.2 (.inl he), step⟩, ?_⟩)
  rintro ⟨e, he, step⟩
  exact ⟨e, (h.mem_iff.1 he).resolve_right fun he => (aside e he).noStep held step, step⟩

/-- A trace that has nothing to do with credentials and accounts changes nothing. -/
theorem tells_of_aside {a : Accounts} (aside : ∀ e ∈ t, IsAside ns e) : Tells ns held a t :=
  tells_of_neutral (fun e he => (aside e he).neutral) held a

/-- Without a session of its own, a registration followed by logins puts credentials in step if the
registration does. -/
theorem tells_signUp {r : SignUp} {answer : Except ApiError Unit} {a : Accounts}
    (h : ∀ e ∈ t, IsNeutral ns e)
    (fits : (Part.accountsAt (internalUrl ns)).Fits a ⟨.signUp (internalUrl ns) r, answer⟩) :
    Tells ns held a (⟨.signUp (internalUrl ns) r, answer⟩ :: t) := by
  cases answer with
  | error e =>
    refine tells_of_neutral (fun e' he => ?_) held a
    rcases List.mem_cons.1 he with rfl | he
    · exact neutral_signUp_error r e
    · exact h e' he
  | ok u =>
    have same : (Part.objectAt (credentialsAddress ns)).after held
        ⟨.signUp (internalUrl ns) r, .ok u⟩ = held := Part.objectAt_ignores rfl held
    rw [Tells, Part.run_cons, Part.run_cons, same, held_of_neutral h, users_of_neutral h,
      Part.accountsAt_signUp, works_insert (fits rfl)]
    refine or_congr_right ⟨fun step => ⟨_, List.mem_cons_self, rfl, step⟩, ?_⟩
    rintro ⟨e, he, step⟩
    rcases List.mem_cons.1 he with rfl | he
    · exact step.2
    · exact ((h e he).noStep held step).elim

/-- Without faults a user who was just registered can log in, so where no session was opened no user was
registered. -/
theorem neutral_of_fails_ensureUser {e : Failure} {a : Accounts}
    (failed : (Bootstrap.ensureUser (internalUrl ns) user).Fails t e)
    (known : (Part.reliableAccountsAt (internalUrl ns)).Admits a t) : ∀ e ∈ t, IsNeutral ns e := by
  obtain ⟨cause, rfl, -⟩ | ⟨r, cause, rfl, -⟩ := Bootstrap.fails_ensureUser failed
  · intro e he
    obtain rfl := List.mem_singleton.1 he
    exact neutral_signUp_error _ cause
  · cases r with
    | error e =>
      intro e' he
      simp only [List.mem_cons, List.not_mem_nil, or_false] at he
      rcases he with rfl | rfl
      · exact neutral_signUp_error _ e
      · exact neutral_logIn _ _
    | ok u =>
      obtain ⟨-, logIn, -⟩ := known
      refine absurd ?_ (logIn.2 rfl)
      simp [Part.reliableAccountsAt, Bootstrap.logInOf, Bootstrap.signUpOf]

/-- Without faults a change of the password that does not go through has changed nothing. -/
theorem neutral_of_fails_rotatePassword {email old new : String} {e : Failure} {a : Accounts}
    (failed : (Bootstrap.rotatePassword (internalUrl ns) email old new).Fails t e)
    (known : (Part.reliableAccountsAt (internalUrl ns)).Admits a t) : ∀ e ∈ t, IsNeutral ns e := by
  obtain ⟨cause, rfl⟩ | ⟨token, cause, rfl⟩ | ⟨token, cause, rfl⟩ :=
    Bootstrap.fails_rotatePassword failed
  · intro e he
    obtain rfl := List.mem_singleton.1 he
    exact neutral_logIn _ _
  · intro e he
    rcases List.mem_cons.1 he with rfl | he
    · exact neutral_logIn _ _
    · unfold Bootstrap.changeOf at he
      split at he
      · obtain rfl := List.mem_singleton.1 he
        exact neutral_change_error _ _ _
      · cases he
  · cases change : !new.isEmpty && new ≠ old with
    | false =>
      intro e he
      simp only [Bootstrap.changeOf, change, Bool.false_eq_true, if_false, List.nil_append,
        List.mem_cons, List.not_mem_nil, or_false] at he
      rcases he with rfl | rfl <;> exact neutral_logIn _ _
    | true =>
      simp only [Bootstrap.changeOf, change, if_true, List.cons_append, List.nil_append] at known
      obtain ⟨-, -, logIn, -⟩ := known
      refine absurd ?_ (logIn.2 rfl)
      simp [Part.reliableAccountsAt, Accounts.change]

/-- After a password was changed, the last login shows what the interface holds. -/
theorem known_of_yields_rotatePassword {email old new : String} {session : Session} {a : Accounts}
    (rotated : (Bootstrap.rotatePassword (internalUrl ns) email old new).Yields t session)
    (known : (Part.reliableAccountsAt (internalUrl ns)).Admits a t) :
    ((Part.accountsAt (internalUrl ns)).run a t).users.get? email = some new := by
  obtain ⟨first, answer, rfl, -⟩ := Bootstrap.yields_rotatePassword rotated
  rw [← List.cons_append, Part.admits_append] at known
  rw [← List.cons_append, Part.run_append, Part.run_cons, Part.accountsAt_logIn]
  exact known.2.1.1 rfl

/-- A change of the password that is saved puts credentials in step: in the end the interface knows the
declared user, and the credentials are the user's. -/
theorem tells_saved {old : Object} {a : Accounts} {t₁ u v w : List Event} {found : Option Object}
    {previous : Credential} {session : Session} {result : SyncResult}
    (before : ∀ e ∈ t₁, IsNeutral target.namespaceName e)
    (rotated : (Bootstrap.rotatePassword (internalUrl target.namespaceName) user.email previous.decode
      user.password.decode).Yields u session)
    (synced : (target.syncObject (credentialsOf target user)).Yields v result)
    (pods : ReplacesPods target.namespaceName w)
    (stored : (Part.reliableObjectAt (credentialsAddress target.namespaceName)).Admits (some old)
      (t₁ ++ ⟨.get (credentialsAddress target.namespaceName), .ok found⟩ :: (u ++ (v ++ w))))
    (known : (Part.reliableAccountsAt (internalUrl target.namespaceName)).Admits a
      (t₁ ++ ⟨.get (credentialsAddress target.namespaceName), .ok found⟩ :: (u ++ (v ++ w)))) :
    Tells target.namespaceName (some old) a
      (t₁ ++ ⟨.get (credentialsAddress target.namespaceName), .ok found⟩ :: (u ++ (v ++ w))) := by
  have known₁ := (Part.admits_append _ _ t₁ _).1 known
  have stored₁ := (Part.admits_append _ _ t₁ _).1 stored
  rw [Part.reliableObjectAt_run, held_of_neutral before] at stored₁
  have stored₂ := (Part.admits_append _ _ u (v ++ w)).1 stored₁.2.2
  have held : (Part.objectAt (credentialsAddress target.namespaceName)).run (some old)
      (t₁ ++ ⟨.get (credentialsAddress target.namespaceName), .ok found⟩ :: (u ++ (v ++ w))) =
        some ((credentialsOf target user).ownedBy target.owner) := by
    rw [Part.run_append, held_of_neutral before]
    refine (Part.objectAt_run_singleton (o := (credentialsOf target user).ownedBy target.owner)
      ?_).trans (congrArg some (Object.keepingStatus_secret _ _))
    rw [storedAt_eq, stored_saved _ rotated synced pods]
    exact List.filter_cons_of_pos (decide_eq_true rfl)
  have silent : ∀ e ∈ v ++ w, (Part.accountsAt (internalUrl target.namespaceName)).Ignores e :=
    fun e he => Part.accountsAt_ignores ((List.mem_append.1 he).elim
      (not_account_of_sync synced _ e) fun he => (pods.idle e he).2 _)
  have knows : ((Part.accountsAt (internalUrl target.namespaceName)).run a (t₁ ++
      ⟨.get (credentialsAddress target.namespaceName), .ok found⟩ :: (u ++ (v ++ w)))).users.get?
        user.email = some user.password.decode := by
    rw [Part.run_append, Part.run_cons, Part.run_append, Part.run_of_ignores silent]
    exact known_of_yields_rotatePassword rotated ((Part.admits_append _ _ u (v ++ w)).1 known₁.2.2).1
  have written : ⟨.apply ((credentialsOf target user).ownedBy target.owner), .ok ()⟩ ∈ v := by
    obtain ⟨rfl, -⟩ | ⟨o, rfl, -⟩ | ⟨o, -, ⟨⟩, -⟩ := yields_sync synced
    · -- There were credentials before, so none were created.
      have looked := stored₂.2.1.1 rfl
      rw [Part.reliableObjectAt_run, Part.objectAt_run_of_nil (List.filterMap_eq_nil_iff.2 fun e he =>
        storedAt_of_account (Program.Plays.only rotated (rotatePassword_reach ..) e he) _)] at looked
      cases looked
    · simp
  rw [Tells, held]
  refine iff_of_true ⟨_, _, heldCredentials?_credentialsOf target user, knows⟩ (.inr ?_)
  exact ⟨⟨.apply ((credentialsOf target user).ownedBy target.owner), .ok ()⟩, by simp [written],
    Object.address_ownedBy ..⟩

/-- Without faults a session puts credentials in step that did not work before, or it leaves it as it is
whether they work. -/
theorem tells_session {old : Object} {a : Accounts} {r : Except Failure Session}
    (opened : (openSession target (internalUrl target.namespaceName) user).run.Plays t r)
    (stored : (Part.reliableObjectAt (credentialsAddress target.namespaceName)).Admits (some old) t)
    (known : (Part.reliableAccountsAt (internalUrl target.namespaceName)).Admits a t) :
    Tells target.namespaceName (some old) a t := by
  rcases plays_openSession opened with ⟨s, ensured, -⟩ | ⟨e, failed, -⟩ |
    ⟨t₁, e, t₂, rfl, failed, -, rotates⟩
  · obtain ⟨answer, token, rfl, -⟩ := Bootstrap.yields_ensureUser ensured
    refine tells_signUp (fun e he => ?_) known.1.1
    obtain rfl := List.mem_singleton.1 he
    exact neutral_logIn _ _
  · exact tells_of_neutral (neutral_of_fails_ensureUser failed known) _ _
  have known₁ := (Part.admits_append _ _ t₁ t₂).1 known
  have before := neutral_of_fails_ensureUser failed known₁.1
  have stored₁ := (Part.admits_append _ _ t₁ t₂).1 stored
  rw [Part.reliableObjectAt_run, held_of_neutral before] at stored₁
  cases rotates with
  | unread answer e =>
    refine tells_of_neutral (fun e he => ?_) _ _
    rcases List.mem_append.1 he with he | he
    · exact before e he
    · obtain rfl := List.mem_singleton.1 he
      exact neutral_get _ _
  | refused found previous u e heldPassword rotated =>
    have after := neutral_of_fails_rotatePassword rotated known₁.2.2
    refine tells_of_neutral (fun e he => ?_) _ _
    rcases List.mem_append.1 he with he | he
    · exact before e he
    rcases List.mem_cons.1 he with rfl | he
    · exact neutral_get _ _
    · exact after e he
  | unsaved found previous u v session e heldPassword rotated synced =>
    exact absurd synced (not_fails_sync ((Part.admits_append _ _ u v).1 stored₁.2.2).2)
  | saved found previous u v w session result _ heldPassword rotated synced pods =>
    exact tells_saved before rotated synced pods stored known

/-- Interfaces of different namespaces have different URLs. -/
theorem internalUrl_injective {ns ns' : String} (h : internalUrl ns = internalUrl ns') : ns = ns' := by
  simp only [internalUrl, internalHost, Net.apiBaseUrl] at h
  have h := congrArg String.toList h
  simp only [String.toList_append, List.append_assoc, List.append_cancel_left_eq] at h
  exact String.toList_injective (List.append_cancel_right h)

section Parts

variable {cp : ControlPlane} (p : Parts settings cp t)
include p

/-- The parts of a pass in another namespace have nothing to do with credentials and accounts. -/
theorem aside_of_other (other : cp.metadata.namespaceName ≠ some ns) : ∀ e ∈ t, IsAside ns e := by
  have part {names : List String} {o : Object} (h : IsPartOf cp names o) :
      o.address ≠ credentialsAddress ns := fun heq => other (by rw [h.1, heq]; rfl)
  intro e he
  rcases p.apart.mem_iff.1 he with he | he
  · exact aside_of_within (p.playsRouter.only (router_reach settings cp) e he) fun o h => part h.1
  rcases p.othersApart.mem_iff.1 he with he | he
  · rcases p.playsController.only (controller_reach settings cp) e he with h | ⟨ns', hns, h⟩
    · exact aside_of_within h fun o h => part h
    have ne : internalUrl ns' ≠ internalUrl ns := fun heq =>
      other (by rw [hns, internalUrl_injective heq])
    obtain ⟨c, r⟩ := e
    rcases h with account | ⟨name, restart⟩
    · refine ⟨storedAt_of_account account _, Part.accountsAt_ignores ?_, fun held =>
        not_putsInStep (fun request heq => ?_) fun o heq => ?_⟩
      · cases c <;> simp [Call.isAccountAt] at account ⊢ <;> simpa [account] using ne
      · obtain rfl : c = _ := heq
        simp [Call.isAccountAt, Ne.symm ne] at account
      · obtain rfl : c = _ := heq
        simp [Call.isAccountAt] at account
    · obtain rfl := restart
      exact ⟨rfl, fun _ => rfl, fun _ => not_putsInStep (by simp) (by simp)⟩
  · exact aside_of_within (p.playsPortManager.only (portManager_reach settings cp) e he)
      fun o h => part h

/-- The port manager's part leaves credentials that are stored as they are. -/
theorem portManager_aside {old : Object}
    (admitted : (Part.objectAt (credentialsAddress ns)).Admits (some old) t) :
    ∀ e ∈ p.portManager, IsAside ns e := by
  intro e he
  have within := p.playsPortManager.only (portManager_reach settings cp) e he
  have applies := p.playsPortManager.only (portManager_applies settings cp) e he
  have account := not_account_of_within within (internalUrl ns)
  have notApplied : ∀ o, e.call = .apply o → o.address ≠ credentialsAddress ns := by
    intro o heq here
    have := applies o heq
    simp [here, credentialsAddress, PortManager.credentialsSecretName, PortManager.name] at this
  refine ⟨Part.unstored_of_admits admitted (p.apart.mem_iff.2 (.inr (p.othersApart.mem_iff.2 (.inr he))))
    notApplied, Part.accountsAt_ignores account, fun held =>
      not_putsInStep (fun r heq => ?_) notApplied⟩
  simp [heq, Call.isAccountAt] at account

theorem router_aside : ∀ e ∈ p.router, IsAside ns e := fun e he =>
  aside_of_within (p.playsRouter.only (router_reach settings cp) e he) fun o h heq => by
    have := h.1.2
    simp [heq, routerNames, credentialsAddress, PortManager.credentialsSecretName, Router.name,
      Router.authoritySecretName, Router.amqpsSecretName, Router.internalSecretName] at this

end Parts

/-- Without faults the port manager's part sees to it that there are credentials. -/
theorem credentials_of_portManager {cp : ControlPlane} {outcome : Outcome}
    (plays : (portManager settings cp).Plays t outcome) (htarget : Target.of cp = .ok target)
    (reliable : ReliableFor portManagerNames t) {old : Option Object}
    (admitted : (Part.objectAt (credentialsAddress target.namespaceName)).Admits old t) :
    ((Part.objectAt (credentialsAddress target.namespaceName)).run old t).isSome := by
  obtain ⟨r, h⟩ : ∃ r, (attemptPortManager settings cp).run.Plays t r := by
    rcases plays_settle.1 plays with h | ⟨e, h, -⟩ <;> exact ⟨_, h⟩
  rcases Attempt.plays_bind h with ⟨e, failed, -⟩ | ⟨t₁, target', t₂, rfl, found, rest₁⟩
  · rw [(Attempt.fails_ofExcept.1 failed).2] at htarget
    cases htarget
  obtain ⟨rfl, same⟩ := Attempt.yields_ofExcept.1 found
  obtain rfl := Except.ok.inj (same.symm.trans htarget)
  rw [List.nil_append] at reliable admitted ⊢
  rcases Attempt.plays_bind rest₁ with ⟨e, failed, -⟩ | ⟨t₃, u, t₄, rfl, -, rest₂⟩
  · exact (Target.not_fails_syncIdentity reliable (by simp [portManagerNames, PortManager.component])
      failed).elim
  replace reliable := reliable.append.2
  replace admitted := ((Part.admits_append _ _ t₃ t₄).1 admitted).2
  rw [Part.run_append]
  generalize (Part.objectAt (credentialsAddress target'.namespaceName)).run old t₃ = now at *
  rcases Attempt.plays_bind rest₂ with ⟨e, failed, -⟩ | ⟨t₅, result, t₆, rfl, synced, -⟩
  · exact (reliable.not_fails_sync (by simp [portManagerNames]) failed).elim
  rw [Part.run_append]
  refine Part.objectAt_run_isSome ?_ t₆
  replace admitted := ((Part.admits_append _ _ t₅ t₆).1 admitted).1
  obtain ⟨rfl, -⟩ | ⟨o, -, ⟨⟩, -⟩ | ⟨o, rfl, -⟩ := yields_sync synced
  · rw [Part.objectAt_run_singleton (o := (credentialsOf target' cp.spec.user).ownedBy target'.owner)]
    · rfl
    · rw [storedAt_eq]
      exact List.filter_cons_of_pos (decide_eq_true rfl)
  · obtain rfl : some o = now := admitted.1 rfl
    rfl

/-- Whether a controller was deployed and users were registered only after credentials were stored. -/
def Unspoiled (ns : String) (objects : Address → Option Object) (a : Accounts) : Prop :=
  objects (credentialsAddress ns) = none →
    objects (controllerAddress ns) = none ∧ ∀ email, a.users.get? email = none

/-- What a trace makes of all objects. -/
def objectsAfter (objects : Address → Option Object) (t : List Event) (a : Address) : Option Object :=
  (Part.objectAt a).run (objects a) t

theorem disjoint_routerNames {name : String} (h : name ∈ portManagerNames) : name ∉ routerNames := by
  simp only [portManagerNames, List.mem_cons, List.not_mem_nil, or_false] at h
  rcases h with rfl | rfl <;> decide

theorem disjoint_ownNames {name : String} (h : name ∈ portManagerNames) : name ∉ ownNames := by
  simp only [portManagerNames, List.mem_cons, List.not_mem_nil, or_false] at h
  rcases h with rfl | rfl <;> decide

/-- The controller's deployment sees the controller's part only. -/
theorem deployment_seen {σ : Type} {cp : ControlPlane} (p : Parts settings cp t) {P : Part σ}
    (h : ∀ e : Event, e.storedAt? (controllerAddress ns) = none → P.Ignores e) (s : σ) :
    P.run s t = P.run s p.controller ∧ (P.Admits s t → P.Admits s p.controller) :=
  p.seen_by_controller
    (fun e he => h e (p.router_storedAt (show Controller.name ∉ routerNames by decide) e he))
    (fun e he => h e (p.portManager_storedAt (show Controller.name ∉ portManagerNames by decide) e he)) s

section Step

variable {cp : ControlPlane} (p : Parts settings cp t) {objects : Address → Option Object}
  {a : Accounts} (home : cp.metadata.namespaceName = some ns)
  (stored : ∀ b, (Part.reliableObjectAt b).Admits (objects b) t)
include p home stored

/-- Where credentials are stored, it is the controller's session that counts. -/
theorem tells_of_stored (known : (Part.reliableAccountsAt (internalUrl ns)).Admits a p.controller)
    {old : Object} (held : objects (credentialsAddress ns) = some old) : Tells ns (some old) a t := by
  have admitted := stored (credentialsAddress ns)
  rw [held] at admitted
  have portManager := portManager_aside p (Part.Admits.ofReliable admitted)
  have seen := (p.seen_by_controller (P := .reliableObjectAt (credentialsAddress ns))
    (fun e he => Part.objectAt_ignores (router_aside p e he).unstored)
    (fun e he => Part.objectAt_ignores (portManager e he).unstored) (some old)).2 admitted
  refine tells_interleaving p.apart.swap (router_aside p)
    (tells_interleaving p.othersApart portManager ?_)
  rcases plays_controller_session p.playsController home with beside |
    ⟨target, before, session, after, r, rfl, split, opened, beside, -⟩
  · exact tells_of_aside fun e he => aside_of_beside (beside e he)
  · have aside : ∀ e ∈ before ++ after, IsAside target.namespaceName e :=
      fun e he => aside_of_beside (beside e he)
    rw [split] at seen known ⊢
    have around := Interleaving.surround before session after
    refine tells_interleaving around aside (tells_session opened ?_ ?_)
    · exact (Part.interleaving (P := .reliableObjectAt _) around
        (fun e he => Part.objectAt_ignores (aside e he).unstored) _).2 seen
    · exact (Part.interleaving (P := .reliableAccountsAt _) around
        (fun e he => (aside e he).ignored) _).2 known

/-- Where no credentials are stored, no controller is found and no session is opened. -/
theorem beside_of_unborn (undeployed : objects (controllerAddress ns) = none) :
    ∀ e ∈ p.controller, e.call.IsBeside ns := by
  rcases plays_controller_session p.playsController home with beside |
    ⟨target, before, session, after, r, -, split, -, -, t₁, old, t₂, rfl, unstored⟩
  · exact beside
  -- The lookup of the deployment cannot have found one.
  have admitted := (deployment_seen p (P := .reliableObjectAt (controllerAddress ns))
    (fun e h => Part.objectAt_ignores h) _).2 (stored (controllerAddress ns))
  rw [split, undeployed, List.append_assoc, Part.admits_append, List.cons_append,
    Part.admits_cons] at admitted
  have found := admitted.2.1.1 rfl
  rw [Part.reliableObjectAt_run, Part.objectAt_run_of_nil (List.filterMap_eq_nil_iff.2 unstored)] at found
  cases found

/-- Where no credentials are stored, the interface is left alone. -/
theorem accounts_of_unborn (undeployed : objects (controllerAddress ns) = none) :
    (Part.accountsAt (internalUrl ns)).run a t = a := by
  have beside := beside_of_unborn p home stored undeployed
  rw [(p.seen_by_interface (fun e h => Part.accountsAt_ignores h) a).1]
  exact Part.run_of_ignores (fun e he => (aside_of_beside (beside e he)).ignored) a

/-- Where no credentials are stored, none are put in step. -/
theorem not_putsInStep_of_unborn (undeployed : objects (controllerAddress ns) = none) :
    ∀ e ∈ t, ¬ PutsInStep ns none e := by
  intro e he
  rcases p.apart.mem_iff.1 he with he | he
  · exact (router_aside p e he).noStep none
  rcases p.othersApart.mem_iff.1 he with he | he
  · exact (aside_of_beside (beside_of_unborn p home stored undeployed e he)).noStep none
  · have account := not_account_of_within
      (p.playsPortManager.only (portManager_reach settings cp) e he) (internalUrl ns)
    refine not_putsInStep (fun r heq => ?_) fun o heq here => ?_
    · simp [heq, Call.isAccountAt] at account
    · have := p.playsPortManager.only (portManager_applies settings cp) e he o heq
      simp [here, credentialsAddress, PortManager.credentialsSecretName, PortManager.name] at this

/-- Where no credentials are stored, none work in the end. -/
theorem tells_of_unborn (undeployed : objects (controllerAddress ns) = none)
    (unknown : ∀ email, a.users.get? email = none) : Tells ns none a t := by
  refine iff_of_false ?_ ?_
  · rintro ⟨email, password, -, knows⟩
    rw [accounts_of_unborn p home stored undeployed, unknown] at knows
    cases knows
  · rintro (⟨email, password, ⟨⟩, -⟩ | ⟨e, he, step⟩)
    exact not_putsInStep_of_unborn p home stored undeployed e he step

/-- If still none are stored after the pass, then the port manager's part had no target, and the
controller's had none either. -/
theorem unspoiled_of_unborn (unborn : objects (credentialsAddress ns) = none)
    (undeployed : objects (controllerAddress ns) = none)
    (unknown : ∀ email, a.users.get? email = none) :
    Unspoiled ns (objectsAfter objects t) ((Part.accountsAt (internalUrl ns)).run a t) := by
  have beside := beside_of_unborn p home stored undeployed
  intro still
  rw [accounts_of_unborn p home stored undeployed]
  refine ⟨?_, unknown⟩
  have seen {b : Address} (hb : b.name ∈ portManagerNames) :=
    p.seen_by_portManager (P := .reliableObjectAt b)
      (fun e he => Part.objectAt_ignores (p.router_storedAt (disjoint_routerNames hb) e he))
      (fun e he => Part.objectAt_ignores (storedAt_of_beside (beside e he) (disjoint_ownNames hb)))
      (objects b)
  have credentials : (credentialsAddress ns).name ∈ portManagerNames := by
    simp [portManagerNames, credentialsAddress]
  rw [objectsAfter, (deployment_seen p (P := .objectAt (controllerAddress ns))
    (fun e h => Part.objectAt_ignores h) _).1, undeployed]
  rcases plays_controller p.playsController with nothing | ⟨target, htarget, -⟩
  · rw [nothing]
    rfl
  · obtain rfl : ns = target.namespaceName :=
      Option.some.inj (home.symm.trans (Target.namespaceName_of htarget).1)
    have isSome := credentials_of_portManager p.playsPortManager htarget
      (fun b hb => ⟨_, (seen hb).2 (stored b)⟩)
      (Part.Admits.ofReliable ((seen credentials).2 (stored _)))
    rw [← Part.reliableObjectAt_run, ← (seen credentials).1, Part.reliableObjectAt_run] at isSome
    rw [objectsAfter] at still
    rw [still] at isSome
    cases isSome

end Step

/-- The parts of a pass tell whether credentials work, wherever their control plane is. -/
theorem tells_of_parts {cp : ControlPlane} (p : Parts settings cp t)
    {objects : Address → Option Object} {a : Accounts}
    (stored : ∀ b, (Part.reliableObjectAt b).Admits (objects b) t)
    (known : (Part.reliableAccountsAt (internalUrl ns)).Admits a p.controller)
    (h : Unspoiled ns objects a) :
    Tells ns (objects (credentialsAddress ns)) a t ∧
      Unspoiled ns (objectsAfter objects t) ((Part.accountsAt (internalUrl ns)).run a t) := by
  by_cases home : cp.metadata.namespaceName = some ns
  · cases held : objects (credentialsAddress ns) with
    | none =>
      obtain ⟨undeployed, unknown⟩ := h held
      exact ⟨tells_of_unborn p home stored undeployed unknown,
        unspoiled_of_unborn p home stored held undeployed unknown⟩
    | some old =>
      refine ⟨tells_of_stored p home stored known held, fun unborn => ?_⟩
      have present : (objects (credentialsAddress ns)).isSome := by
        rw [held]
        rfl
      have isSome := Part.objectAt_run_isSome (a := credentialsAddress ns) present t
      rw [objectsAfter] at unborn
      rw [unborn] at isSome
      cases isSome
  · have aside := aside_of_other p home
    have kept (b : Address) (hb : b.namespaceName = ns) : objectsAfter objects t b = objects b :=
      Part.objectAt_run_of_nil (List.filterMap_eq_nil_iff.2
        (p.other_storedAt (a := b) (by rwa [hb])))
    refine ⟨tells_of_aside aside, ?_⟩
    rw [Unspoiled, kept (credentialsAddress ns) rfl, kept (controllerAddress ns) rfl,
      Part.run_of_ignores (fun e he => (aside e he).ignored) a]
    exact h

/-- Whether the interface of a namespace accepts the credentials that are stored there. -/
def Accepted (w : World) (ns : String) : Prop :=
  Works (w.cluster.object? (credentialsAddress ns)) (w.api (internalUrl ns)).users

/-- Whether a pass in a world puts the credentials of a namespace in step. -/
def StepsIn (settings : Setup) (w : World) (ns : String) : Happening → Prop
  | .pass ns' name => ∃ e ∈ w.passTrace settings ns' name,
    PutsInStep ns (w.cluster.object? (credentialsAddress ns)) e
  | _ => False

/-- Whether a happening is neither an outage nor a fault. -/
def isOrdinary : Happening → Bool
  | .pass _ _ => true
  | .declare _ => true
  | .assign _ _ _ => true
  | .serve _ _ => false
  | .plant _ => false

/-- Whether nothing was spoiled in a world without faults. -/
structure Sound (ns : String) (w : World) : Prop where
  faults : w.faults = []
  unspoiled : Unspoiled ns w.cluster.object? (w.accounts (internalUrl ns))

/-- A pass makes the credentials work if it puts them in step, and else changes nothing about it. -/
theorem accepted_pass {w : World} (sound : Sound ns w) (ns' name : String) :
    (Accepted (w.happen settings (.pass ns' name)) ns ↔
        Accepted w ns ∨ StepsIn settings w ns (.pass ns' name)) ∧
      Sound ns (w.happen settings (.pass ns' name)) := by
  have objects (a : Address) : (w.happen settings (.pass ns' name)).cluster.object? a =
      objectsAfter w.cluster.object? (w.passTrace settings ns' name) a :=
    (w.objectAt_trace (dispatch settings ns' name) a).2
  have accounts : (w.happen settings (.pass ns' name)).accounts (internalUrl ns) =
      (Part.accountsAt (internalUrl ns)).run (w.accounts (internalUrl ns))
        (w.passTrace settings ns' name) :=
    (w.accountsAt_trace (dispatch settings ns' name) (internalUrl ns)).2
  have main : Tells ns (w.cluster.object? (credentialsAddress ns)) (w.accounts (internalUrl ns))
        (w.passTrace settings ns' name) ∧
      Unspoiled ns (objectsAfter w.cluster.object? (w.passTrace settings ns' name))
        ((Part.accountsAt (internalUrl ns)).run (w.accounts (internalUrl ns))
          (w.passTrace settings ns' name)) := by
    have visit := visits_of_plays (w.plays_trace (dispatch settings ns' name))
    rcases visit.idle_or_pass with idle | ⟨⟨pass⟩⟩
    · have aside : ∀ e ∈ w.passTrace settings ns' name, IsAside ns e :=
        fun e he => aside_of_bookkeeping (idle e he).1
      have kept (b : Address) : objectsAfter w.cluster.object? (w.passTrace settings ns' name) b =
          w.cluster.object? b :=
        Part.objectAt_run_of_nil (List.filterMap_eq_nil_iff.2 fun e he =>
          storedAt_of_bookkeeping (idle e he).1 b)
      refine ⟨tells_of_aside aside, ?_⟩
      rw [Unspoiled, kept, kept, Part.run_of_ignores fun e he => (aside e he).ignored]
      exact sound.unspoiled
    · obtain ⟨stored, known⟩ := World.reliable_pass pass sound.faults
      obtain ⟨tells, unspoiled⟩ :=
        tells_of_parts pass.parts stored (known (internalUrl ns)) sound.unspoiled
      obtain ⟨r, around, bookkept⟩ := pass.around
      have aside : ∀ e ∈ r, IsAside ns e := fun e he => aside_of_bookkeeping (bookkept e he)
      have kept : objectsAfter w.cluster.object? (w.passTrace settings ns' name) =
          objectsAfter w.cluster.object? pass.middle := funext fun b =>
        (Part.interleaving (P := .objectAt b) around
          (fun e he => objectAt_ignores_bookkeeping b e (bookkept e he)) _).1
      have same := (Part.interleaving (P := .accountsAt (internalUrl ns)) around
        (fun e he => (aside e he).ignored) (w.accounts (internalUrl ns))).1
      refine ⟨tells_interleaving around aside tells, ?_⟩
      rw [kept]
      exact (congrArg (Unspoiled ns _) same).mpr unspoiled
  have users : ((w.happen settings (.pass ns' name)).api (internalUrl ns)).users =
      ((Part.accountsAt (internalUrl ns)).run (w.accounts (internalUrl ns))
        (w.passTrace settings ns' name)).users := congrArg Accounts.users accounts
  refine ⟨?_, w.faults_run (dispatch settings ns' name) sound.faults, ?_⟩
  · rw [Accepted, objects, users]
    exact main.1
  · rw [funext objects, accounts]
    exact main.2

/-- What else happens between passes neither stores credentials nor changes whom the interface knows. -/
theorem accepted_happen (settings : Setup) {w : World} (sound : Sound ns w) {h : Happening}
    (ordinary : isOrdinary h) :
    (Accepted (w.happen settings h) ns ↔ Accepted w ns ∨ StepsIn settings w ns h) ∧
      Sound ns (w.happen settings h) := by
  cases h with
  | pass ns' name => exact accepted_pass sound ns' name
  | declare cp => exact ⟨by simp [StepsIn, Accepted, World.happen, Cluster.insertControlPlane,
      Cluster.object?, World.api], sound.faults, sound.unspoiled⟩
  | assign ns' name ip =>
    have kept (a : Address) (h : a.kind ≠ .service) :
        (w.happen settings (.assign ns' name ip)).cluster.object? a = w.cluster.object? a :=
      World.object?_assignAddress w.cluster ns' name ip h
    refine ⟨?_, sound.faults, ?_⟩
    · rw [Accepted, kept _ (by simp [credentialsAddress])]
      simp only [StepsIn, or_false]
      rfl
    · rw [Unspoiled, kept _ (by simp [credentialsAddress]), kept _ (by simp [controllerAddress])]
      exact sound.unspoiled
  | serve url api => cases ordinary
  | plant faults => cases ordinary

/-- Along a run of ordinary happenings the credentials work exactly if they worked to begin with, or some
pass has put them in step. -/
theorem accepted_after_iff {w : World} (sound : Sound ns w) {history : List Happening}
    (ordinary : ∀ h ∈ history, isOrdinary h) :
    Accepted (w.after settings history) ns ↔ Accepted w ns ∨
      ∃ before h later, history = before ++ h :: later ∧
        StepsIn settings (w.after settings before) ns h := by
  induction history generalizing w with
  | nil => simp [World.after]
  | cons h rest ih =>
    obtain ⟨now, sound'⟩ := accepted_happen settings sound (ordinary h (by simp))
    have afterwards := ih sound' fun h' hh => ordinary h' (by simp [hh])
    rw [show w.after settings (h :: rest) = (w.happen settings h).after settings rest from rfl,
      afterwards, now, or_assoc]
    refine or_congr_right ⟨?_, ?_⟩
    · rintro (step | ⟨before, h', later, rfl, step⟩)
      · exact ⟨[], h, rest, rfl, step⟩
      · exact ⟨h :: before, h', later, rfl, step⟩
    · rintro ⟨before, h', later, split, step⟩
      cases before with
      | nil =>
        obtain ⟨rfl, rfl⟩ := List.cons.inj split
        exact .inl step
      | cons h'' before =>
        obtain ⟨rfl, rfl⟩ := List.cons.inj split
        exact .inr ⟨before, h', later, rfl, step⟩

/-- A world without faults, objects and users. -/
structure Fresh (w : World) : Prop where
  faults : w.faults = []
  objects : ∀ a, w.cluster.object? a = none
  users : ∀ url email, (w.api url).users.get? email = none

/-- From a fresh world on, the credentials work exactly if some pass registered the user whom they name
with the password that they hold, or replaced them. -/
theorem accepted_iff_exists_step (settings : Setup) {w : World} (fresh : Fresh w)
    {history : List Happening} (ordinary : ∀ h ∈ history, isOrdinary h) (ns : String) :
    Accepted (w.after settings history) ns ↔ ∃ before h later, history = before ++ h :: later ∧
      StepsIn settings (w.after settings before) ns h := by
  have sound : Sound ns w := ⟨fresh.faults, fun _ => ⟨fresh.objects _, fresh.users _⟩⟩
  rw [accepted_after_iff sound ordinary]
  refine or_iff_right ?_
  rintro ⟨email, password, -, knows⟩
  rw [fresh.users] at knows
  cases knows

theorem fresh_empty : Fresh {} := ⟨rfl, fun _ => rfl, fun _ _ => rfl⟩

theorem not_accepted {w : World} {email known : String} {password : Credential}
    (stored : heldCredentials? (w.cluster.object? (credentialsAddress ns)) = some (email, password))
    (registered : (w.api (internalUrl ns)).users.get? email = some known)
    (ne : known ≠ password.decode) : ¬ Accepted w ns := by
  rintro ⟨email', password', held, knows⟩
  obtain ⟨rfl, rfl⟩ := Prod.mk.inj (Option.some.inj (held.symm.trans stored))
  exact ne (Option.some.inj (registered.symm.trans knows))

/-- A run in which the password is edited after the first pass. -/
def editedPassword : List Happening :=
  [.declare (plainControlPlane "a@b.c" (.ofPlain "one") {}), .pass "ns" "ecn",
    .declare (plainControlPlane "a@b.c" (.ofPlain "two") {}), .pass "ns" "ecn"]

theorem accepted_iff_editedPassword :
    Fresh {} ∧ (∀ h ∈ editedPassword, isOrdinary h) ∧
    (Accepted (({} : World).after .standard editedPassword) "ns" ↔
      ∃ before h later, editedPassword = before ++ h :: later ∧
        StepsIn .standard (({} : World).after .standard before) "ns" h) :=
  ⟨fresh_empty, by decide, accepted_iff_exists_step .standard fresh_empty (by decide) "ns"⟩

/-- What is there before the last pass of the run. -/
def editedWorld : World := ({} : World).after .standard (editedPassword.take 3)

/-- The last pass makes the control plane ready, after which the password that is stored is not the one
that the interface knows. -/
theorem run_editedWorld :
    editedWorld.readies .standard "ns" "ecn" = true ∧
    heldCredentials? ((editedWorld.happen .standard (.pass "ns" "ecn")).cluster.object?
      (credentialsAddress "ns")) = some ("a@b.c", .ofPlain "one") ∧
    ((editedWorld.happen .standard (.pass "ns" "ecn")).api (internalUrl "ns")).users.get? "a@b.c" =
      some "two" := by
  decide +kernel

/-- A control plane can be made ready with credentials that do not work. -/
theorem ready_without_access : ¬ ∀ (history : List Happening), (∀ h ∈ history, isOrdinary h) →
    (({} : World).after .standard history).readies .standard "ns" "ecn" →
    Accepted ((({} : World).after .standard history).happen .standard (.pass "ns" "ecn")) "ns" := by
  intro works
  obtain ⟨ready, stored, registered⟩ := run_editedWorld
  have accepted : Accepted (editedWorld.happen .standard (.pass "ns" "ecn")) "ns" :=
    works (editedPassword.take 3) (by decide) ready
  exact not_accepted stored registered (by decide +kernel) accepted

end EdgePlane.Reconcile
