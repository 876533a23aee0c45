import EdgePlane.Proofs.Overlap
import EdgePlane.Proofs.Rotation
import EdgePlane.Proofs.Store
import EdgePlane.Proofs.Underway

/-!
# Secrets that are created once

The authority and the port manager's credentials are created where there are none, and kept where there
are. Nothing ever replaces an authority. Credentials are replaced only after the same pass has moved the
user to the declared password, and by the declared ones.
-/

namespace EdgePlane

open Kubernetes

/-- The object that a call is to put in place of another. -/
def Call.replaces? : Call → Option Object
  | .apply o => some o
  | _ => none

theorem Call.eq_apply {c : Call} {o : Object} (h : c.replaces? = some o) : c = .apply o := by
  cases c with
  | apply o' => rw [Option.some.inj h]
  | _ => cases h

namespace Reconcile

open Attempt Simulation

/-- `Succeeds ns cp h o`: of the events `h` some moved the declared user to the declared password, and a
lookup after that found credentials; `o` are the declared ones. -/
inductive Succeeds (ns : String) (cp : ControlPlane) (h : List Event) : Object → Prop
  | moved (target : Target) (held : String) (trace : List Event) (session : Session) (found : Object)
    (isTarget : Target.of cp = .ok target) (home : target.namespaceName = ns)
    (rotated : (Bootstrap.rotatePassword (internalUrl ns) cp.spec.user.email held
      cp.spec.user.password.decode).Yields trace session)
    (past : List.Sublist (trace ++ [⟨.get (credentialsAddress ns), .ok (some found)⟩]) h) :
    Succeeds ns cp h ((credentialsOf target cp.spec.user).ownedBy target.owner)

theorem Succeeds.later {ns : String} {cp : ControlPlane} {h h' : List Event} {o : Object}
    (sub : h.Sublist h') (succeeds : Succeeds ns cp h o) : Succeeds ns cp h' o := by
  cases succeeds with
  | moved target held trace session found isTarget home rotated past =>
    exact .moved target held trace session found isTarget home rotated (past.trans sub)

/-- No authority is replaced, and credentials only once the password was moved to the declared one. -/
def creating (ns : String) (cp : ControlPlane) : Guard where
  Allows h c := ∀ o, c.replaces? = some o → o.address ≠ authorityAddress ns ∧
    (o.address = credentialsAddress ns → Succeeds ns cp h o)
  lasts sub allowed o replaces :=
    ⟨(allowed o replaces).1, fun here => ((allowed o replaces).2 here).later sub⟩

variable {settings : Setup} {cp : ControlPlane} {ns : String} {t : List Event} {o : Outcome} {c : Call}

theorem creating_frees (h : ∀ o, c.replaces? = some o → o.address ≠ authorityAddress ns ∧
    o.address ≠ credentialsAddress ns) : (creating ns cp).Frees c :=
  fun _ o replaces => ⟨(h o replaces).1, fun here => absurd here (h o replaces).2⟩

theorem creating_of_kept (h : c.replaces? = none) : (creating ns cp).Frees c :=
  creating_frees fun o replaces => by simp [h] at replaces

theorem creating_of_account {url : String} (h : c.isAccountAt url) : (creating ns cp).Frees c :=
  creating_of_kept (by cases c <;> first | rfl | simp [Call.isAccountAt] at h)

/-- What neither place is written in is allowed at any time. -/
theorem creating_of_within {W : Object → Prop} (h : c.Within W)
    (apart : ∀ o, W o → o.address ≠ authorityAddress ns ∧ o.address ≠ credentialsAddress ns) :
    (creating ns cp).Frees c := by
  refine creating_frees fun o replaces => ?_
  obtain rfl := Call.eq_apply replaces
  rcases h with quiet | ⟨o', stores, hW⟩
  · cases quiet
  · obtain rfl := Option.some.inj stores
    exact apart o hW

/-- An attempt that keeps to what is created once. -/
abbrev Creates (ns : String) (cp : ControlPlane) {α : Type} (x : Attempt α) : Prop :=
  x.Heeds (creating ns cp) (fun _ => True) fun _ _ => True

theorem creates_of_only {α : Type} {x : Attempt α} (h : x.Only (creating ns cp).Frees) :
    Creates ns cp x := .of_only h fun _ _ => id

theorem creates_of_idle {α : Type} {x : Attempt α} (h : x.Only (Call.Within fun _ => False)) :
    Creates ns cp x :=
  creates_of_only (h.mono fun _ within => creating_of_within within fun _ => False.elim)

theorem router_creates (plays : (router settings cp).Plays t o) : (creating ns cp).Holds t := by
  rintro t₁ e t₂ rfl o replaces
  have applies := Call.eq_apply replaces
  obtain ⟨home, name⟩ : IsPartOf cp routerNames o := by
    rcases plays.only (router_reach settings cp) e (by simp) with quiet | ⟨o', stores, writes, -⟩
    · rw [applies] at quiet
      cases quiet
    · rw [applies] at stores
      obtain rfl := Option.some.inj stores
      exact writes
  refine ⟨fun here => ?_, fun here => ?_⟩
  · rw [here] at home
    exact plays.only (router_applies home) e (by simp) o applies here
  · rw [here] at name
    exact absurd name (show PortManager.credentialsSecretName ∉ routerNames by decide)

theorem portManager_creates (plays : (portManager settings cp).Plays t o) : (creating ns cp).Holds t := by
  rintro t₁ e t₂ rfl
  refine creating_frees (fun o replaces => ?_) _
  have name := plays.only (portManager_applies settings cp) e (by simp) o (Call.eq_apply replaces)
  constructor <;> intro here <;> rw [here] at name <;> revert name
  · exact show Router.authoritySecretName ≠ PortManager.name by decide
  · exact show PortManager.credentialsSecretName ≠ PortManager.name by decide

section Controller

variable {target : Target} (isTarget : Target.of cp = .ok target)
include isTarget

/-- Credentials are replaced after the password was moved. -/
theorem saved_creates {session : Session} {held : String} : (target.syncObject
    (credentialsOf target cp.spec.user)).Heeds (creating target.namespaceName cp)
      ((Bootstrap.rotatePassword (internalUrl target.namespaceName) cp.spec.user.email held
        cp.spec.user.password.decode).Leaves (fun _ => True) session) fun _ _ => True := by
  refine (Heeds.sync (creating_of_kept rfl) (fun _ _ => creating_of_kept rfl _) ?_).mono
    fun _ _ _ => trivial
  rintro _ found ⟨past, trace, rfl, -, rotated⟩ - o ⟨⟩
  rw [Object.address_ownedBy]
  refine ⟨by simp [credentialsOf, authorityAddress, PortManager.credentialsSecretName,
    Router.authoritySecretName], fun _ => ?_⟩
  refine .moved target held trace session found isTarget rfl rotated ?_
  rw [List.append_assoc]
  exact List.sublist_append_right _ _

theorem rotatePassword_creates : Creates target.namespaceName cp
    (rotatePassword target (internalUrl target.namespaceName) cp.spec.user) := by
  have stored : (storedPassword target.namespaceName cp.spec.user.email).Only
      (Call.Within fun _ => False) := by
    refine .bind (only_getSecret ..) fun found => ?_
    cases found with
    | none => exact .throw _
    | some secret =>
      dsimp only
      split
      · exact .throw _
      · exact .pure _
  refine .bind (creates_of_idle stored) fun previous => .bind (.of_free fun plays e he =>
    creating_of_account (Program.Plays.only plays (rotatePassword_reach ..) e he)) fun session =>
      .bind (saved_creates isTarget) fun r => .bind (creates_of_idle (only_get _)) fun deployment => ?_
  have restart : Creates target.namespaceName cp
      (Attempt.restart target.namespaceName PortManager.name) :=
    creates_of_only (Program.Only.perform (creating_of_kept rfl))
  split
  · exact .bind restart fun _ => .pure _ fun _ _ => trivial
  · exact .pure _ fun _ _ => trivial

theorem openSession_creates : Creates target.namespaceName cp
    (openSession target (internalUrl target.namespaceName) cp.spec.user) := by
  refine .tryCatch ((ensureUser_reach ..).mono fun _ => creating_of_account) (fun _ _ => id)
    fun failure => ?_
  split
  · exact rotatePassword_creates isTarget
  · exact creates_of_only (.throw _)

theorem bootstrapController_creates : Creates target.namespaceName cp
    (bootstrapController settings target cp) := by
  refine .bind (creates_of_idle (Program.Only.perform (.inl rfl))) fun _ =>
    .bind (creates_of_idle (waitUntilAvailable_reach ..)) fun _ =>
      .bind (openSession_creates isTarget) fun session =>
        .bind (creates_of_idle (routerAddress_reach ..)) fun address => ?_
  cases address with
  | none => exact .pure _ fun _ _ => trivial
  | some host =>
    refine .bind (creates_of_only (viaApi_reach (Program.Only.perform
      (creating_of_kept rfl)))) fun _ => ?_
    split
    · exact .pure _ fun _ _ => trivial
    · refine .bind (creates_of_idle (only_discoverAddress ..)) fun address => ?_
      cases address with
      | none => exact .pure _ fun _ _ => trivial
      | some address =>
        exact creates_of_idle (.tryCatch (.bind (.bind (Program.Only.perform (.inl rfl)) fun _ =>
          waitUntilAvailable_reach ..) fun _ => .pure _) fun _ => .pure _)

theorem driveController_creates : Creates target.namespaceName cp
    (driveController settings target cp) := by
  have objects : Creates target.namespaceName cp (syncController settings target cp) := by
    refine creates_of_only ((syncController_reach settings (Target.namespaceName_of isTarget).1).mono
      fun _ within => creating_of_within within fun o part => ?_)
    have name := part.2
    constructor <;> intro here <;> rw [here] at name <;> revert name
    · exact show Router.authoritySecretName ∉ ownNames by decide
    · exact show PortManager.credentialsSecretName ∉ ownNames by decide
  refine .bind objects fun result => ?_
  dsimp only
  split
  · exact .pure _ fun _ _ => trivial
  · split
    · exact .bind (creates_of_only (Program.Only.perform (creating_of_kept rfl))) fun _ =>
        bootstrapController_creates isTarget
    · exact bootstrapController_creates isTarget

end Controller

/-- The controller's part of another namespace writes elsewhere. -/
theorem creating_elsewhere (away : cp.metadata.namespaceName ≠ some ns) (h : ControllerCalls cp c) :
    (creating ns cp).Frees c := by
  rcases h with within | ⟨home, -, account | ⟨name, rfl⟩⟩
  · exact creating_of_within within fun o part =>
      ⟨fun here => away (part.1.trans (by rw [here]; rfl)),
        fun here => away (part.1.trans (by rw [here]; rfl))⟩
  · exact creating_of_account account
  · exact creating_of_kept rfl

theorem controller_creates (plays : (controller settings cp).Plays t o) : (creating ns cp).Holds t := by
  by_cases home : cp.metadata.namespaceName = some ns
  · refine Heeds.holds (x := attemptController settings cp) (Q := fun _ _ => True)
      (.ofExcept_bind fun target isTarget => ?_) plays
    obtain rfl : target.namespaceName = ns :=
      Option.some.inj ((Target.namespaceName_of isTarget).1.symm.trans home)
    dsimp only
    split
    · exact .bind (creates_of_idle (verifyPullSecret_reach ..)) fun _ => driveController_creates isTarget
    · exact driveController_creates isTarget
  · rintro t₁ e t₂ rfl
    exact creating_elsewhere home (plays.only (controller_reach settings cp) e (by simp)) t₁

theorem creating_heeded (settings : Setup) (ns : String) : Heeded settings (creating ns) where
  router := router_creates
  controller := controller_creates
  portManager := portManager_creates

section Underway

variable {ι : Type} [DecidableEq ι]

/-- Whether the secrets that are created once stay put along a trace: an authority that is stored stays as
it is, and credentials that are stored stay as they are until a runner replaces them that has moved the
password of its user just before; then they are those that it declares. -/
structure StayPut (runners : ι → Runner) (ns : String) (s : Store) (t : List (ι × Event)) : Prop where
  authority : ∀ t₁ t₂ o, t = t₁ ++ t₂ → s.after (t₁.map (·.2)) (authorityAddress ns) = some o →
    s.after (t.map (·.2)) (authorityAddress ns) = some o
  credentials : ∀ t₁ i e t₂, t = t₁ ++ (i, e) :: t₂ →
    (s.after (t₁.map (·.2)) (credentialsAddress ns)).isSome →
    s.after ((t₁ ++ [(i, e)]).map (·.2)) (credentialsAddress ns) =
        s.after (t₁.map (·.2)) (credentialsAddress ns) ∨
      ∃ cp new, (runners i).IsAbout (own i t₁) cp ∧ Succeeds ns cp (own i t₁) new ∧
        e = ⟨.apply new, .ok ()⟩ ∧
        s.after ((t₁ ++ [(i, e)]).map (·.2)) (credentialsAddress ns) = some new ∧
        heldCredentials? (some new) = some (cp.spec.user.email, cp.spec.user.password)

variable {runners : ι → Runner} {s : Store} {t t₁ t₂ : List (ι × Event)} {i : ι} {e : Event}
  (underway : Underway (fun i => (runners i).program settings) t)
  (admitted : s.Admits (t.map (·.2)))

variable (ns) in
include underway admitted in
/-- Where there is an object in one of the two places, an event leaves it or replaces it as its writer
may. -/
theorem replaced_of_underway {a : Address} (secret : a.kind = .secret)
    (split : t = t₁ ++ (i, e) :: t₂) (there : (s.after (t₁.map (·.2)) a).isSome) :
    s.after ((t₁ ++ [(i, e)]).map (·.2)) a = s.after (t₁.map (·.2)) a ∨
      ∃ cp new, (runners i).IsAbout (own i t₁) cp ∧ (creating ns cp).Allows (own i t₁) e.call ∧
        e.call.replaces? = some new ∧ new.address = a ∧ e.stored? = some new ∧
        s.after ((t₁ ++ [(i, e)]).map (·.2)) a = some (new.keepingStatus (s.after (t₁.map (·.2)) a)) := by
  subst split
  rw [List.map_append, List.map_cons, Store.admits_append] at admitted
  rw [List.map_append, Store.after_append]
  rcases Store.after_applied admitted.2 (a := a) (by simp [secret]) there with
    same | ⟨new, call, stores, now⟩
  · exact .inl same
  · obtain ⟨cp, about, allowed⟩ := (creating_heeded settings ns).underway underway stores
    obtain ⟨stored, here⟩ := Event.storedAt?_eq_some.1 stores
    exact .inr ⟨cp, new, about, allowed, by rw [call]; rfl, here, stored, now⟩

include underway admitted in
/-- An authority that stands there outlasts each event. -/
theorem authority_stands {o : Object} (split : t = t₁ ++ (i, e) :: t₂)
    (now : s.after (t₁.map (·.2)) (authorityAddress ns) = some o) :
    s.after ((t₁ ++ [(i, e)]).map (·.2)) (authorityAddress ns) = some o := by
  rcases replaced_of_underway ns underway admitted rfl split (Option.isSome_of_eq_some now) with
    same | ⟨cp, new, -, allowed, replaces, here, -⟩
  · exact same.trans now
  · exact absurd here (allowed new replaces).1

include underway admitted in
/-- However passes and parts of passes overlap, whatever they declare and whatever fails: the secrets that
are created once stay put. -/
theorem stayPut_of_underway : StayPut runners ns s t := by
  refine ⟨fun t₁ t₂ o split now => ?_, fun t₁ i e t₂ split there => ?_⟩
  · induction t₂ generalizing t₁ with
    | nil => rwa [split, List.append_nil]
    | cons x t₂ ih =>
      exact ih (t₁ ++ [x]) (by rw [split, List.append_assoc]; rfl)
        (authority_stands underway admitted split now)
  · rcases replaced_of_underway ns underway admitted rfl split there with
      same | ⟨cp, new, about, allowed, replaces, here, stored, now⟩
    · exact .inl same
    refine .inr ⟨cp, new, about, (allowed new replaces).2 here, ?_⟩
    obtain ⟨c, r⟩ := e
    obtain rfl : c = .apply new := Call.eq_apply replaces
    obtain ⟨⟩ | ⟨⟨⟩⟩ := r
    · cases stored
    cases (allowed new replaces).2 here with
    | moved target =>
      exact ⟨rfl, now.trans (congrArg some (Object.keepingStatus_secret _ _)),
        heldCredentials?_credentialsOf target cp.spec.user⟩

end Underway

/-- A part of the controller that moves the password, and a part of the port manager beside it. -/
def movingRunners (east : Bool) : Runner :=
  if east then .controller changedPassword else .portManager changedPassword

/-- A world in which all is deployed, with the old password. -/
def reliableWorld : World := { rotatingWorld with faults := [] }

/-- The two take turns in that world until the credentials are replaced. -/
def moving : (Bool → Program Outcome) × List (Bool × Event) × World :=
  World.turns ((List.replicate 8 [true, true, false]).flatten ++ .replicate 5 true)
    (fun east => (movingRunners east).program .standard) reliableWorld

theorem underway_moving :
    Underway (fun east => (movingRunners east).program .standard) moving.2.1 :=
  World.underway_turns _ _ _

/-- The credentials were those of the old password, and are those of the new one. -/
theorem run_moving :
    heldCredentials? (reliableWorld.cluster.object? (credentialsAddress "ns")) =
        some ("a@b.c", .ofPlain "one") ∧
      heldCredentials? (moving.2.2.cluster.object? (credentialsAddress "ns")) =
        some ("a@b.c", .ofPlain "two") := by
  decide +kernel

theorem stayPut_of_moving :
    Underway (fun east => (movingRunners east).program .standard) moving.2.1 ∧
      Store.Admits reliableWorld.cluster.object? (moving.2.1.map (·.2)) ∧
      heldCredentials? (Store.after reliableWorld.cluster.object? (moving.2.1.map (·.2))
        (credentialsAddress "ns")) = some ("a@b.c", .ofPlain "two") ∧
      StayPut movingRunners "ns" reliableWorld.cluster.object? moving.2.1 := by
  have follows : reliableWorld.Follows (moving.2.1.map (·.2)) moving.2.2 := World.follows_turns ..
  obtain ⟨admitted, final⟩ := follows.store
  refine ⟨underway_moving, admitted, ?_, stayPut_of_underway underway_moving admitted⟩
  rw [← final]
  exact run_moving.2

end Reconcile

end EdgePlane
