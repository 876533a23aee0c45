import EdgePlane.Proofs.Conversation
import EdgePlane.Proofs.Round
import Mathlib.Data.List.Basic

/-!
# Registrations that fail

A pass of the controller's part registers the user at most once, and says nothing about accounts before.
An answer that the user exists already leads to a login; any other error should end the pass. But
errors of a registration and of a login come out of one attempt, and only their texts tell what to do about
them: an error of the registration that reads as a wrong password is taken for a refused login, and the pass
goes on to change the password.
-/

namespace EdgePlane

open Kubernetes Management

/-- Whether a call registers a user. -/
def Call.isSignUp : Call → Bool
  | .signUp _ _ => true
  | _ => false

/-- Whether a call does at an interface what only a registered user can do. -/
def Call.isAccess : Call → Bool
  | .logIn _ _ => true
  | .changePassword _ _ _ => true
  | .putRouter _ _ _ => true
  | _ => false

/-- Whether a call is about no account of any interface. -/
def Call.IsApart (c : Call) : Prop := ∀ url, c.isAccountAt url = false

namespace Call

variable {c : Call}

theorem IsApart.not_signUp (h : c.IsApart) : c.isSignUp = false := by
  cases c with
  | signUp url _ => simpa [isAccountAt] using h url
  | _ => rfl

theorem IsApart.not_access (h : c.IsApart) : c.isAccess = false := by
  cases c with
  | logIn url _ => simpa [isAccountAt] using h url
  | changePassword url _ _ => simpa [isAccountAt] using h url
  | putRouter url _ _ => simpa [isAccountAt] using h url
  | _ => rfl

theorem isApart_of_about (h : c.isAboutObject = true) : c.IsApart := by
  intro url
  cases c <;> first | rfl | cases h

end Call

namespace Reconcile

open Bootstrap

variable {settings : Setup} {cp : ControlPlane} {target : Target} {user : ControlPlane.User}
  {t : List Event}

/-- A change of the password starts with a login, and registers nobody. -/
theorem logIn_mem_of_changes {url email old new : String} {answer : Except ApiError AccessToken}
    (h : Changes url email old new answer t) :
    (∃ held, ⟨.logIn url ⟨email, old⟩, held⟩ ∈ t) ∧ ∀ e ∈ t, e.call.isSignUp = false := by
  cases h with
  | refused cause => exact ⟨⟨_, List.mem_cons_self ..⟩, by simp [Call.isSignUp]⟩
  | unchanged held cause changes => exact ⟨⟨_, List.mem_cons_self ..⟩, by simp [Call.isSignUp]⟩
  | changed held answer =>
    refine ⟨⟨_, List.mem_cons_self ..⟩, ?_⟩
    unfold changeOf
    split <;> simp [Call.isSignUp]

/-- How a change of the password goes on after the password that is held was looked up: it ends there if the
password could not be read, or the user logs in with it. -/
inductive Begins (ns url : String) (r : Except Failure Session) : List Event → Prop
  | unread (answer : Except Failure (Option Object)) (e : Failure) (ends : r = .error e)
    (told : answer = .error e ∨ ∃ found detail, answer = .ok found ∧ e = .reconciliation detail) :
    Begins ns url r [⟨.get (credentialsAddress ns), answer⟩]
  | read (found : Option Object) (request : LogIn) (held : Except ApiError AccessToken) (t : List Event)
    (login : ⟨.logIn url request, held⟩ ∈ t) (others : ∀ e ∈ t, e.call.isSignUp = false) :
    Begins ns url r (⟨.get (credentialsAddress ns), .ok found⟩ :: t)

theorem Rotates.begins {url : String} {r : Except Failure Session} (h : Rotates target url user r t) :
    Begins target.namespaceName url r t := by
  have synced_apart {u : List Event} {result : Except Failure SyncResult}
      (synced : (target.syncObject (credentialsOf target user)).run.Plays u result) :
      ∀ e ∈ u, e.call.IsApart := fun e he url => not_account_of_sync synced url e he
  have read (found : Option Object) {old new : String} {answer : Except ApiError AccessToken}
      {u v : List Event} (changes : Changes url user.email old new answer u)
      (apart : ∀ e ∈ v, e.call.IsApart) : Begins target.namespaceName url r
        (⟨.get (credentialsAddress target.namespaceName), .ok found⟩ :: (u ++ v)) := by
    obtain ⟨⟨held, login⟩, others⟩ := logIn_mem_of_changes changes
    refine .read found _ held (u ++ v) (List.mem_append_left v login) fun e he => ?_
    exact (List.mem_append.1 he).elim (others e) fun he => (apart e he).not_signUp
  cases h with
  | unread answer e unreadable told => exact .unread answer e rfl told
  | refused found previous u e held rotated =>
    obtain ⟨answer, -, changes⟩ := Bootstrap.plays_rotatePassword rotated
    simpa using read found (v := []) changes (by simp)
  | unsaved found previous u v session e held rotated synced =>
    obtain ⟨answer, -, changes⟩ := Bootstrap.plays_rotatePassword rotated
    exact read found changes (synced_apart synced)
  | saved found previous u v w session result _ held rotated synced pods opened =>
    obtain ⟨answer, -, changes⟩ := Bootstrap.plays_rotatePassword rotated
    refine read found changes fun e he => ?_
    exact (List.mem_append.1 he).elim (synced_apart synced e) fun he => (pods.idle e he).2

theorem Begins.not_signUp {ns url : String} {r : Except Failure Session} (h : Begins ns url r t) :
    ∀ e ∈ t, e.call.isSignUp = false := by
  cases h with
  | unread answer e ends told => simp [Call.isSignUp]
  | read found request held t login others => simpa [Call.isSignUp] using others

/-- A session starts with the one registration in it. If that fails for another reason than that the user
exists, nothing follows but a change of the password, and only where the error reads as a wrong one. -/
theorem signUp_of_openSession {url : String} {r : Except Failure Session}
    (h : (openSession target url user).run.Plays t r) :
    ∃ answer u, t = ⟨.signUp url (signUpOf user), answer⟩ :: u ∧ (∀ e ∈ u, e.call.isSignUp = false) ∧
      ∀ cause, answer = .error cause → cause.isAccountExists = false →
        (cause.isInvalidCredentials = false ∧ u = [] ∧ r = .error (.api cause)) ∨
          (cause.isInvalidCredentials = true ∧ Begins target.namespaceName url r u) := by
  have contradicts {answer : Except ApiError Unit} (registered : IsRegistered answer) (cause : ApiError)
      (failed : answer = .error cause) (unknown : cause.isAccountExists = false) {p : Prop} : p := by
    have := registered cause failed
    rw [unknown] at this
    cases this
  rcases plays_openSession h with ⟨s, entered, rfl⟩ | ⟨e, barred, rfl, valid⟩ |
    ⟨t₁, e, t₂, rfl, failed, invalid, rotates⟩
  · obtain ⟨answer, opened, enters⟩ := plays_ensureUser entered
    cases enters with
    | unregistered cause unknown => cases opened
    | loggedIn answer login registered =>
      refine ⟨answer, _, rfl, by simp [Call.isSignUp], fun cause failed unknown => ?_⟩
      exact contradicts registered cause failed unknown
  · obtain ⟨answer, failed, enters⟩ := plays_ensureUser barred
    cases enters with
    | unregistered cause unknown =>
      cases failed
      refine ⟨.error cause, [], rfl, by simp, ?_⟩
      rintro _ ⟨⟩ -
      exact .inl ⟨valid, rfl, rfl⟩
    | loggedIn answer login registered =>
      refine ⟨answer, _, rfl, by simp [Call.isSignUp], fun cause failed unknown => ?_⟩
      exact contradicts registered cause failed unknown
  · have begins := rotates.begins
    obtain ⟨answer, failure, enters⟩ := plays_ensureUser failed
    cases enters with
    | unregistered cause unknown =>
      cases failure
      refine ⟨.error cause, t₂, rfl, begins.not_signUp, ?_⟩
      rintro _ ⟨⟩ -
      exact .inr ⟨invalid, begins⟩
    | loggedIn answer login registered =>
      refine ⟨answer, _, rfl, by simpa [Call.isSignUp] using begins.not_signUp,
        fun cause failed unknown => ?_⟩
      exact contradicts registered cause failed unknown

/-- How a pass of the controller's part that ends in `r` comes to register the user: not at all, or in the
one session that it opens. If the session cannot be opened the pass ends for that reason. -/
inductive Enrols (target : Target) (user : ControlPlane.User) (r : Except Failure Outcome) :
    List Event → Prop
  | never (t : List Event) (apart : ∀ e ∈ t, e.call.IsApart) : Enrols target user r t
  | once (before session after : List Event) (opened : Except Failure Session)
    (apart : ∀ e ∈ before, e.call.IsApart)
    (plays : (openSession target (internalUrl target.namespaceName) user).run.Plays session opened)
    (later : ∀ e ∈ after, e.call.isSignUp = false)
    (final : ∀ e, opened = .error e → after = [] ∧ r = .error e) :
    Enrols target user r (before ++ (session ++ after))

/-- What is about no account can come before. -/
theorem Enrols.prepend {t₀ : List Event} {r : Except Failure Outcome} (h : Enrols target user r t)
    (early : ∀ e ∈ t₀, e.call.IsApart) : Enrols target user r (t₀ ++ t) := by
  cases h with
  | never _ late => exact .never _ fun e he => (List.mem_append.1 he).elim (early e) (late e)
  | once before session after opened quiet plays later final =>
    rw [← List.append_assoc]
    exact .once _ session after opened
      (fun e he => (List.mem_append.1 he).elim (early e) (quiet e)) plays later final

theorem Enrols.bind {α : Type} {x : Attempt α} {f : α → Attempt Outcome} {r : Except Failure Outcome}
    (apart : x.Only Call.IsApart)
    (next : ∀ a u, (f a).run.Plays u r → Enrols target user r u) (h : (x >>= f).run.Plays t r) :
    Enrols target user r t := by
  rcases Attempt.plays_bind h with ⟨e, failed, -⟩ | ⟨t₁, a, t₂, rfl, done, rest⟩
  · exact .never t (Program.Plays.only failed apart)
  · exact (next a t₂ rest).prepend (Program.Plays.only done apart)

theorem enrols_of_bootstrapController {r : Except Failure Outcome}
    (h : (bootstrapController settings target cp).run.Plays t r) : Enrols target cp.spec.user r t := by
  obtain ⟨conclude, same, only⟩ := bootstrapController_eq settings target cp
  rw [same] at h
  have connects : (Attempt.connect (internalUrl target.namespaceName)).Only Call.IsApart :=
    Program.Only.perform fun _ => rfl
  refine .bind connects (fun _ u h => ?_) h
  refine .bind ((waitUntilAvailable_reach ..).mono fun _ => not_account_of_within (W := fun _ => False))
    (fun _ u h => ?_) h
  rcases Attempt.plays_bind h with ⟨e, failed, rfl⟩ | ⟨t₁, session, t₂, rfl, opened, rest⟩
  · rw [← List.append_nil u]
    refine .once [] u [] (.error e) (by simp) failed (by simp) ?_
    rintro _ ⟨⟩
    exact ⟨rfl, rfl⟩
  · refine .once [] t₁ t₂ (.ok session) (by simp) opened (fun e he => ?_) nofun
    rcases Program.Plays.only rest (only session) e he with quiet | registers
    · generalize e.call = c at quiet
      cases c <;> first | rfl | cases quiet
    · generalize e.call = c at registers
      cases c <;> first | rfl | cases registers

theorem enrols_of_driveController {r : Except Failure Outcome}
    (h : (driveController settings target cp).run.Plays t r) : Enrols target cp.spec.user r t := by
  refine .bind ((syncController_objects settings target cp).mono fun _ => Call.isApart_of_about)
    (fun result u h => ?_) h
  obtain ⟨existed, changed⟩ := result
  cases existed with
  | false =>
    obtain ⟨rfl, -⟩ := Program.plays_pure.1 h
    exact .never [] (by simp)
  | true =>
    cases changed with
    | false => exact enrols_of_bootstrapController h
    | true =>
      have restarts : (Attempt.restart target.namespaceName Controller.name).Only Call.IsApart :=
        Program.Only.perform fun _ => rfl
      exact .bind restarts (fun _ _ => enrols_of_bootstrapController) h

/-- A pass of the controller's part registers the user in a session that it opens, or not at all. -/
theorem enrols_of_plays {o : Outcome} (h : (controller settings cp).Plays t o) :
    t = [] ∨ ∃ target r, o = outcomeOf r ∧ Enrols target cp.spec.user r t := by
  obtain ⟨r, plays, rfl⟩ := plays_settle_outcome h
  refine (plays_attemptController plays).imp And.left fun ⟨target, _, t₁, t₂, split, lookups, drives⟩ => ?_
  refine ⟨target, r, rfl, split ▸ Enrols.prepend ?_ fun e he url => ?_⟩
  · rcases drives with ⟨rfl, -⟩ | drives
    · exact .never [] (by simp)
    · exact enrols_of_driveController drives
  · obtain ⟨a, look⟩ := lookups e he
    rw [look]
    rfl

/-- What comes before a registration that fails in a pass is about no account, and what follows it is
nothing, or a change of the password where the error reads as a wrong one. -/
theorem Enrols.of_refusal {r : Except Failure Outcome} {t₁ t₂ : List Event} {url : String}
    {request : SignUp} {cause : ApiError}
    (h : Enrols target user r (t₁ ++ ⟨.signUp url request, .error cause⟩ :: t₂))
    (unknown : cause.isAccountExists = false) :
    (∀ e ∈ t₁, e.call.isAccess = false) ∧
      ((cause.isInvalidCredentials = false ∧ t₂ = [] ∧ r = .error (.api cause)) ∨
        (cause.isInvalidCredentials = true ∧ ∃ opened u after, t₂ = u ++ after ∧
          Begins target.namespaceName (internalUrl target.namespaceName) opened u ∧
          ∀ e, opened = .error e → after = [] ∧ r = .error e)) := by
  generalize split : t₁ ++ ⟨.signUp url request, .error cause⟩ :: t₂ = t at h
  cases h with
  | never _ apart =>
    cases (apart ⟨.signUp url request, .error cause⟩ (by simp [← split])).not_signUp
  | once before session after opened apart plays later final =>
    obtain ⟨answer, u, rfl, others, meaning⟩ := signUp_of_openSession plays
    -- The registration that failed is the one in the session.
    have early : ⟨.signUp url request, .error cause⟩ ∉ before := fun he => by
      cases (apart _ he).not_signUp
    have late : ⟨.signUp url request, .error cause⟩ ∉ u ++ after := fun he => by
      cases (List.mem_append.1 he).elim (others _) (later _)
    obtain ⟨rfl, same, rfl⟩ := (List.append_cons_inj_of_notMem early late).1 split.symm
    cases same
    refine ⟨fun e he => (apart e he).not_access, ?_⟩
    obtain ⟨valid, rfl, rfl⟩ | ⟨invalid, begins⟩ := meaning cause rfl unknown
    · obtain ⟨rfl, rfl⟩ := final _ rfl
      exact .inl ⟨valid, rfl, rfl⟩
    · exact .inr ⟨invalid, opened, u, after, rfl, begins, final⟩

/-- Whether a pass ended with an error of the interface: without a login, a change of the password or a
registration of a router, and, since `later`, without storing a secret or replacing pods. -/
structure Round.EndsWith (r : Round settings) (cause : ApiError) (later : List Event) : Prop where
  outcome : r.outcome = .failed (.api cause)
  access : ∀ e ∈ r.trace, e.call.isAccess = false
  secrets : ∀ e ∈ later, ∀ o, e.call.stores? = some o → o.kind ≠ .secret
  restarts : ∀ e ∈ later, ∀ ns name, e.call ≠ .restart ns name

/-- A pass that does nothing after a failed registration but a lookup ends as it should. -/
theorem Round.EndsWith.of_quiet {r : Round settings} {t₁ t₂ : List Event} {url : String}
    {request : SignUp} {cause : ApiError}
    (split : r.trace = t₁ ++ ⟨.signUp url request, .error cause⟩ :: t₂)
    (outcome : r.outcome = .failed (.api cause)) (early : ∀ e ∈ t₁, e.call.isAccess = false)
    (lookups : ∀ e ∈ t₂, ∃ a, e.call = .get a) : r.EndsWith cause t₂ where
  outcome := outcome
  access := by
    intro e he
    rw [split] at he
    rcases List.mem_append.1 he with he | he
    · exact early e he
    · rcases List.mem_cons.1 he with rfl | he
      · rfl
      · obtain ⟨a, look⟩ := lookups e he
        rw [look]
        rfl
  secrets := by
    intro e he o stores
    obtain ⟨a, look⟩ := lookups e he
    rw [look] at stores
    cases stores
  restarts := by
    intro e he ns name restart
    obtain ⟨a, look⟩ := lookups e he
    cases restart.symm.trans look

/-- A pass whose registration fails for another reason than that the user exists ends with that error exactly
if the error does not read as a wrong password. If it does, the pass goes on to change the password, and
ends with that error only if the first lookup that this takes fails with the same. -/
theorem endsWith_signUp_iff (r : Round settings) {t₁ t₂ : List Event} {url : String} {request : SignUp}
    {cause : ApiError} (split : r.trace = t₁ ++ ⟨.signUp url request, .error cause⟩ :: t₂)
    (unknown : cause.isAccountExists = false) :
    r.EndsWith cause t₂ ↔
      cause.isInvalidCredentials = false ∨ ∃ a, t₂ = [⟨.get a, .error (.api cause)⟩] := by
  rcases enrols_of_plays r.plays with nothing | ⟨target, res, outcome, enrols⟩
  · simp [nothing] at split
  rw [split] at enrols
  obtain ⟨early, ⟨valid, rfl, rfl⟩ | ⟨invalid, opened, u, after, rfl, begins, final⟩⟩ :=
    enrols.of_refusal unknown
  · exact iff_of_true (.of_quiet split outcome early (by simp)) (.inl valid)
  rw [invalid]
  simp only [Bool.true_eq_false, false_or]
  cases begins with
  | unread answer e ends told =>
    obtain ⟨rfl, rfl⟩ := final e ends
    constructor
    · intro ended
      cases outcome.symm.trans ended.outcome
      obtain rfl | ⟨found, detail, -, ⟨⟩⟩ := told
      exact ⟨_, rfl⟩
    · rintro ⟨a, once⟩
      obtain ⟨look, -⟩ := List.cons.inj once
      cases look
      obtain told | ⟨found, detail, ⟨⟩, -⟩ := told
      cases told
      exact .of_quiet split outcome early (by simp)
  | read found request held u login others =>
    refine iff_of_false (fun ended => ?_) ?_
    · have := ended.access ⟨.logIn (internalUrl target.namespaceName) request, held⟩ (by simp [split, login])
      cases this
    · rintro ⟨a, once⟩
      obtain ⟨-, nothing⟩ := List.cons.inj once
      obtain ⟨rfl, -⟩ := List.append_eq_nil_iff.1 nothing
      cases login

section Refusals

open Simulation

/-- A registration that failed, and why. -/
def refusal? : Event → Option (String × SignUp × ApiError)
  | ⟨.signUp url request, .error cause⟩ => some (url, request, cause)
  | _ => none

theorem exists_split_of_refusal {url : String} {request : SignUp} {cause : ApiError}
    (h : t.findSome? refusal? = some (url, request, cause)) :
    ∃ t₁ t₂, t = t₁ ++ ⟨.signUp url request, .error cause⟩ :: t₂ := by
  obtain ⟨⟨c, reply⟩, he, refused⟩ := List.exists_of_findSome?_eq_some h
  cases c with
  | signUp u r =>
    cases reply with
    | ok _ => cases refused
    | error e =>
      cases refused
      exact List.append_of_mem he
  | _ => cases refused

/-- A pass that declares another password than the controller and the port manager know, in a world where the
registration fails once. -/
def refusedRound (cause : ApiError) : Round .standard :=
  controllerRound .standard { outdatedWorld with
      faults := [⟨"POST http://controller.ns.svc:51121/api/v3/user/signup", 0, 1, .reconciliation "",
        cause⟩] }
    (plainControlPlane "a@b.c" (.ofPlain "two") {})

/-- What the interface says where it has no room for another user. -/
def noRoom : ApiError := .status 507 "Registration failed: no room for users"

/-- What it says where only those may register users who are logged in. -/
def notAllowed : ApiError := .status 403 "Registration failed: invalid credentials of the administrator"

/-- The registration that is refused in both cases. -/
def refusedSignUp : SignUp := signUpOf (plainControlPlane "a@b.c" (.ofPlain "two") {}).spec.user

theorem refusal_noRoom : (refusedRound noRoom).trace.findSome? refusal? =
    some (internalUrl "ns", refusedSignUp, noRoom) := by decide +kernel

theorem refusal_notAllowed : (refusedRound notAllowed).trace.findSome? refusal? =
    some (internalUrl "ns", refusedSignUp, notAllowed) := by decide +kernel

/-- An error that speaks of no credentials ends the pass. -/
theorem endsWith_noRoom : ∃ t₁ t₂, (refusedRound noRoom).trace =
      t₁ ++ ⟨.signUp (internalUrl "ns") refusedSignUp, .error noRoom⟩ :: t₂ ∧
    noRoom.isAccountExists = false ∧ noRoom.isInvalidCredentials = false ∧
    (refusedRound noRoom).EndsWith noRoom t₂ := by
  obtain ⟨t₁, t₂, split⟩ := exists_split_of_refusal refusal_noRoom
  have unknown : noRoom.isAccountExists = false := by decide +kernel
  have other : noRoom.isInvalidCredentials = false := by decide +kernel
  exact ⟨t₁, t₂, split, unknown, other, (endsWith_signUp_iff _ split unknown).2 (.inl other)⟩

/-- One that does makes the pass log in with the password from before. -/
theorem not_endsWith_signUp : ¬ ∀ (r : Round .standard) (t₁ t₂ : List Event) (url : String)
    (request : SignUp) (cause : ApiError), r.trace = t₁ ++ ⟨.signUp url request, .error cause⟩ :: t₂ →
    cause.isAccountExists = false → r.EndsWith cause t₂ := by
  intro fatal
  obtain ⟨t₁, t₂, split⟩ := exists_split_of_refusal refusal_notAllowed
  have ended := fatal (refusedRound notAllowed) t₁ t₂ _ _ _ split (by decide +kernel)
  have access : (refusedRound notAllowed).trace.any (·.call.isAccess) = true := by decide +kernel
  obtain ⟨e, he, accesses⟩ := List.any_eq_true.1 access
  rw [ended.access e he] at accesses
  cases accesses

end Refusals

end Reconcile

end EdgePlane
