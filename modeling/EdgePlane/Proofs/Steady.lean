import EdgePlane.Proofs.SessionTrace
import EdgePlane.Proofs.Standpoint

/-!
# What keeps to a standpoint

An attempt keeps to a standpoint if it does at each of its steps, so the laws below take it apart along
its construction. What a step ends in matters only for logins: from the standpoint of one that cannot
cope with a refusal there is none.
-/

namespace EdgePlane

open Kubernetes Management Standpoint

variable {S : Standpoint} {α β : Type}

namespace Standpoint.Steady

variable {Q : α → Prop} {Q' : β → Prop} {p : Program α}

theorem bind {f : α → Program β} (hp : S.Steady Q p) (hf : ∀ a, Q a → S.Steady Q' (f a)) :
    S.Steady Q' (p >>= f) := by
  induction p with
  | pure a => exact hf a hp
  | call c k ih =>
    refine ⟨hp.1, fun r r' alike expects => ?_⟩
    obtain ⟨goesOn, steady⟩ := hp.2 r r' alike expects
    exact ⟨congrArg (Program.bind · f) goesOn, ih r steady⟩

theorem mono {P : α → Prop} (hp : S.Steady Q p) (h : ∀ a, Q a → P a) : S.Steady P p := by
  induction p with
  | pure a => exact h a hp
  | call c k ih =>
    refine ⟨hp.1, fun r r' alike expects => ?_⟩
    obtain ⟨goesOn, steady⟩ := hp.2 r r' alike expects
    exact ⟨goesOn, ih r steady⟩

/-- A call whose answers are alike only if they are equal. -/
theorem perform {c : Call} (calls : S.Calls c) (plain : ∀ r r', S.Alike c r r' → r = r') :
    S.Steady (fun r => S.Expects ⟨c, r⟩) (.perform c) :=
  ⟨calls, fun r r' alike expects => ⟨by rw [plain r r' alike], expects⟩⟩

end Standpoint.Steady

namespace Attempt

/-- Whether an attempt keeps to a standpoint. -/
def KeepsTo (S : Standpoint) (x : Attempt α) : Prop := S.Steady (fun _ => True) x.run

/-- Whether an attempt keeps to a standpoint, and fails because of a refusal only if that can be coped
with. -/
def Admitted (S : Standpoint) (x : Attempt α) : Prop :=
  S.Steady (fun r => ∀ e, r = .error e → S.copes ∨ e.isInvalidCredentials = false) x.run

namespace KeepsTo

variable {x : Attempt α} {f : α → Attempt β}

theorem bind (hx : x.KeepsTo S) (hf : ∀ a, (f a).KeepsTo S) : (x >>= f).KeepsTo S :=
  Standpoint.Steady.bind hx fun r _ => match r with
    | .ok a => hf a
    | .error _ => trivial

theorem pure (a : α) : (Pure.pure a : Attempt α).KeepsTo S := trivial

theorem throw (e : Failure) : (throw e : Attempt α).KeepsTo S := trivial

theorem ofExcept (r : Except Failure α) : (Attempt.ofExcept r).KeepsTo S := trivial

theorem ofExcept_bind {r : Except Failure α} (h : ∀ a, r = .ok a → (f a).KeepsTo S) :
    (Attempt.ofExcept r >>= f).KeepsTo S := by
  cases r with
  | ok a => exact h a rfl
  | error e => trivial

theorem tryCatch {g : Failure → Attempt α} (hx : x.KeepsTo S) (hg : ∀ e, (g e).KeepsTo S) :
    (tryCatch x g).KeepsTo S :=
  Standpoint.Steady.bind hx fun r _ => match r with
    | .ok _ => trivial
    | .error e => hg e

theorem ofProgram {Q : α → Prop} {p : Program α} (hp : S.Steady Q p) : (Attempt.ofProgram p).KeepsTo S :=
  Standpoint.Steady.bind hp fun _ _ => trivial

/-- After a lookup an attempt may go on by what it can tell of the object. -/
theorem get_bind {a : Address} {f : Option Object → Attempt β} (calls : S.Calls (.get a))
    (h : ∀ o o', S.Finds a o o' → f o = f o' ∧ (f o).KeepsTo S) : (Attempt.get a >>= f).KeepsTo S := by
  refine ⟨calls, ?_⟩
  rintro _ _ ⟨o, o', rfl, rfl, finds⟩ -
  obtain ⟨same, keeps⟩ := h o o' finds
  exact ⟨congrArg ExceptT.run same, keeps⟩

variable {ns name : String}

theorem getSecret (h : S.regard ⟨.secret, ns, name⟩ = .whole) : (Attempt.getSecret ns name).KeepsTo S :=
  get_bind (.inl (by rw [h]; decide)) fun _ _ finds => ⟨by rw [finds.eq h], .pure _⟩

/-- The address of a load balancer may be looked up where only that is regarded. -/
theorem discoverAddress (h : S.regard ⟨.service, ns, name⟩ ≠ .unseen) :
    (Attempt.discoverAddress ns name).KeepsTo S := by
  refine get_bind (.inl h) fun o o' finds => ⟨?_, .pure _⟩
  have alike := finds.1
  cases regard : S.regard ⟨.service, ns, name⟩ with
  | unseen => exact absurd regard h
  | exposure =>
    rw [regard] at alike
    exact congrArg Pure.pure alike
  | whole => rw [finds.eq regard]

theorem drawKey (draws : S.draws) : Attempt.drawKey.KeepsTo S :=
  .ofProgram (.perform draws fun _ _ h => h)

theorem sleep (d : Duration) : (Attempt.sleep d).KeepsTo S :=
  ⟨trivial, fun _ _ _ _ => ⟨rfl, trivial⟩⟩

theorem connect (url : String) : (Attempt.connect url).KeepsTo S :=
  (Standpoint.Steady.perform (c := .connect url) trivial fun _ _ h => h).mono fun _ _ => trivial

theorem restart (talks : S.talks) (known : S.regard ⟨.deployment, ns, name⟩ = .whole ∨
    S.Stands ⟨.deployment, ns, name⟩) : (Attempt.restart ns name).KeepsTo S :=
  (Standpoint.Steady.perform (c := .restart ns name) ⟨talks, known⟩ fun _ _ h => h).mono fun _ _ => trivial

/-- What may be stored may be synced. -/
theorem sync {owner : OwnerReference} {mode : SyncMode} {o : Object} (writes : S.Writes (o.ownedBy owner)) :
    (EdgePlane.sync owner mode o).KeepsTo S := by
  have whole := S.whole_of_writes _ writes
  have create : (Attempt.create (o.ownedBy owner)).KeepsTo S :=
    (Standpoint.Steady.perform (c := .create _) writes fun _ _ h => h).mono fun _ _ => trivial
  have apply : (Attempt.apply (o.ownedBy owner)).KeepsTo S :=
    (Standpoint.Steady.perform (c := .apply _) writes fun _ _ h => h).mono fun _ _ => trivial
  have regarded : S.regard (o.ownedBy owner).address ≠ .unseen := by
    rw [whole]
    decide
  refine get_bind (.inl regarded) fun found found' finds => ⟨by rw [finds.eq whole], ?_⟩
  cases found with
  | none => exact create.bind fun _ => .pure _
  | some old =>
    cases mode with
    | apply => exact apply.bind fun _ => .pure _
    | createOnly => exact .pure _

/-- What is known to stand may be synced if it is created only once. -/
theorem syncOnce_of_stands {owner : OwnerReference} {o : Object} (stands : S.Stands o.address) :
    (EdgePlane.sync owner .createOnly o).KeepsTo S := by
  have here : (o.ownedBy owner).address = o.address := Object.address_ownedBy ..
  refine get_bind (.inr (here ▸ stands)) fun found found' finds => ?_
  obtain ⟨found, found'⟩ := finds.2 (here ▸ stands)
  obtain ⟨_, rfl⟩ := Option.isSome_iff_exists.1 found
  obtain ⟨_, rfl⟩ := Option.isSome_iff_exists.1 found'
  exact ⟨rfl, .pure _⟩

end KeepsTo

/-- A call of the management interface fails with the error of the answer. -/
theorem steady_viaApi {Q : Except ApiError α → Prop} {p : Program (Except ApiError α)}
    (hp : S.Steady Q p) :
    S.Steady (fun r => ∀ e, r = .error e → ∃ cause, e = .api cause ∧ Q (.error cause)) (viaApi p).run := by
  have asked : S.Steady (fun r => ∃ answer, r = .ok answer ∧ Q answer) (exactly p).run :=
    hp.bind fun r h => ⟨r, rfl, h⟩
  refine asked.bind fun r h => ?_
  obtain ⟨answer, rfl, h⟩ := h
  cases answer with
  | ok a =>
    rintro e ⟨⟩
  | error cause =>
    rintro e ⟨⟩
    exact ⟨cause, rfl, h⟩

theorem KeepsTo.viaApi {Q : Except ApiError α → Prop} {p : Program (Except ApiError α)}
    (hp : S.Steady Q p) : (Attempt.viaApi p).KeepsTo S :=
  (steady_viaApi hp).mono fun _ _ => trivial

/-- The remedy for a refusal matters only if it can be coped with. -/
theorem Admitted.tryCatch {x : Attempt α} {g : Failure → Attempt α} (hx : x.Admitted S)
    (hg : ∀ e, S.copes ∨ e.isInvalidCredentials = false → (g e).KeepsTo S) :
    (tryCatch x g).KeepsTo S :=
  Standpoint.Steady.bind hx fun r h => match r with
    | .ok _ => trivial
    | .error e => hg e (h e rfl)

theorem Admitted.keepsTo {x : Attempt α} (h : x.Admitted S) : x.KeepsTo S := h.mono fun _ _ => trivial

end Attempt

namespace Bootstrap

variable (url email password : String)

theorem logIn_admitted (talks : S.talks) : (logIn url email password).Admitted S := by
  have asked := Attempt.steady_viaApi (Standpoint.Steady.perform (S := S)
    (c := .logIn url ⟨email, password⟩) talks fun _ _ h => h)
  refine asked.bind fun r h => ?_
  cases r with
  | ok answer => rintro e ⟨⟩
  | error e =>
    rintro _ ⟨⟩
    obtain ⟨cause, rfl, expects⟩ := h e rfl
    exact expects

theorem ensureUser_admitted (user : ControlPlane.User) (talks : S.talks) :
    (ensureUser url user).Admitted S := by
  have asked : S.Steady (fun r => ∃ answer, r = .ok answer ∧ S.Expects ⟨.signUp url (signUpOf user), answer⟩)
      (Attempt.exactly (.perform (.signUp url (signUpOf user)))).run :=
    (Standpoint.Steady.perform (c := .signUp url _) talks fun _ _ h => h).bind fun r h => ⟨r, rfl, h⟩
  refine asked.bind fun r h => ?_
  obtain ⟨answer, rfl, expects⟩ := h
  cases answer with
  | ok u => exact logIn_admitted url _ _ talks
  | error cause =>
    change S.Steady _ (if cause.isAccountExists then logIn url user.email user.password.decode
      else throw (.api cause)).run
    split
    · exact logIn_admitted url _ _ talks
    · rintro e ⟨⟩
      exact expects

theorem waitUntilAvailable_keepsTo (limit : RetryLimit) (talks : S.talks) :
    (waitUntilAvailable url limit).KeepsTo S := by
  unfold waitUntilAvailable
  generalize limit.attempts = remaining
  induction remaining with
  | zero => exact .throw _
  | succ n ih =>
    refine .bind (.ofProgram (.perform (c := .status url) talks fun _ _ h => h)) fun r => ?_
    cases r with
    | ok status => exact .pure _
    | error e =>
      dsimp only
      split
      · split
        · exact .bind (.sleep _) fun _ => ih
        · exact ih
      · exact .throw _

theorem rotatePassword_keepsTo (old new : String) (talks : S.talks) :
    (rotatePassword url email old new).KeepsTo S := by
  refine .bind (logIn_admitted url email old talks).keepsTo fun session => .bind ?_ fun _ =>
    (logIn_admitted url email new talks).keepsTo
  unfold changePassword
  split
  · exact .viaApi (.perform (c := .changePassword url _ _) talks fun _ _ h => h)
  · exact .pure _

theorem registerRouter_keepsTo (session : Session) (router : DefaultRouter) (talks : S.talks) :
    (registerRouter url session router).KeepsTo S :=
  .viaApi (.perform (c := .putRouter url _ _) talks fun _ _ h => h)

end Bootstrap

end EdgePlane
