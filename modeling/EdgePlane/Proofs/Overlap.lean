import EdgePlane.Proofs.Convergence
import EdgePlane.Proofs.Turns

/-!
# Passes that overlap

The router's parts of several control planes in one namespace share the authority. Each looks it up
first, and makes one if there is none; the one that is made is stored unless there is one by then. A
part that was overtaken between the two goes on with the authority that it made and could not store.
-/

namespace EdgePlane

open Kubernetes

/-- The address of the object that a call is about. -/
def Call.address? : Call → Option Address
  | .get a => some a
  | .create o => some o.address
  | .apply o => some o.address
  | _ => none

theorem Event.address?_of_stored {e : Event} {o : Object} (h : e.stored? = some o) :
    e.call.address? = some o.address := by
  obtain ⟨c, r⟩ := e
  cases c <;> cases r <;> simp_all [stored?, Call.address?]

/-- A sync is about the address of its object, and stores no other there. -/
theorem sync_about {owner : OwnerReference} {mode : SyncMode} {o : Object} {P : Call → Prop}
    (h : ∀ c : Call, c.address? = some o.address →
      (∀ o', c.stores? = some o' → o' = o.ownedBy owner) → P c) : (sync owner mode o).Only P :=
  sync_reach (h _ rfl (by simp [Call.stores?]))
    (h _ (by simp [Call.address?]) (by simp [Call.stores?]))
    fun _ => h _ (by simp [Call.address?]) (by simp [Call.stores?])

namespace Reconcile

open Simulation

/-- Whether a call is about no secret. -/
def SparesSecrets (c : Call) : Prop := ∀ a, c.address? = some a → a.kind ≠ .secret

theorem sync_spares {owner : OwnerReference} {mode : SyncMode} {o : Object} (h : o.kind ≠ .secret) :
    (sync owner mode o).Only SparesSecrets :=
  sync_about fun c about _ a ha => by
    obtain rfl := Option.some.inj (about.symm.trans ha)
    exact h

theorem syncIdentity_spares (target : Target) (component : Component) :
    (target.syncIdentity component).Only SparesSecrets := by
  refine .bind (sync_spares nofun) fun _ => ?_
  split
  · exact .bind (sync_spares nofun) fun _ => .bind (sync_spares nofun) fun _ => .pure _
  · exact .pure _

theorem syncService_spares (target : Target) (component : Component) :
    (target.syncService component).Only SparesSecrets := by
  unfold Target.syncService
  split
  · exact .bind (sync_spares nofun) fun _ => .pure _
  · exact .pure _

theorem routerAddress_spares (cp : ControlPlane) (ns : String) :
    (routerAddress cp ns).Only SparesSecrets := by
  unfold routerAddress
  dsimp only
  split
  · refine .bind (Program.Only.perform ?_) fun _ => .pure _
    rintro a ⟨⟩
    exact nofun
  · split
    · exact .throw _
    · exact .pure _

/-- The place of the authority. -/
def authorityAddress (ns : String) : Address := ⟨.secret, ns, Router.authoritySecretName⟩

/-- Whether a call spares all secrets but the leaf secrets, and stores none but those of an authority. -/
def StoresLeaves (target : Target) (ca : KeyedCertificate) (address : String) (c : Call) : Prop :=
  ∀ a, c.address? = some a → a.kind = .secret →
    ∃ name ∈ Router.leafSecretNames, a = ⟨.secret, target.namespaceName, name⟩ ∧
      ∀ o, c.stores? = some o →
        ∃ leaf, IsLeaf target.namespaceName ca address name leaf ∧ o = leaf.ownedBy target.owner

theorem syncLeaf_stores (target : Target) (ca : KeyedCertificate) (address : String) {name : String}
    (isLeaf : name ∈ Router.leafSecretNames) :
    (syncLeaf target ca address name).Only (StoresLeaves target ca address) := by
  refine only_ofExcept_bind fun alternative _ => .bind (.ofProgram (Program.Only.perform nofun))
    fun fresh => .bind (sync_about fun c about stored a ha _ => ?_) fun _ => .pure _
  obtain rfl := Option.some.inj (about.symm.trans ha)
  refine ⟨name, isLeaf, KeyedCertificate.address_secret .., fun o stores =>
    ⟨_, ⟨alternative, fresh, rfl⟩, stored o stores⟩⟩

/-- How the router's part comes to store leaf secrets: it stores none, or it has seen to the authority
that they are of. -/
inductive Issues (pem : PemReader) (ns : String) : List Event → Prop
  | unissued (t : List Event) (none : ∀ e ∈ t, ∀ o, e.stored? = some o → o.kind ≠ .secret) :
    Issues pem ns t
  | issued (target : Target) (ca : KeyedCertificate) (address : String) (t₁ t₂ t₃ : List Event)
    (home : target.namespaceName = ns) (before : ∀ e ∈ t₁, SparesSecrets e.call)
    (sees : SeesAuthority pem target ca t₂) (after : ∀ e ∈ t₃, StoresLeaves target ca address e.call) :
    Issues pem ns (t₁ ++ (t₂ ++ t₃))

/-- An authority that is not seen to is not stored either. -/
theorem fails_routerAuthority {pem : PemReader} {target : Target} {t : List Event} {e : Failure}
    (h : (routerAuthority pem target).Fails t e) : stored t = [] := by
  rcases Attempt.fails_bind.1 h with look | ⟨t₁, secret, t₂, rfl, look, rest⟩
  · rw [Attempt.fails_getSecret.1 look]
    rfl
  obtain ⟨found, rfl, rfl⟩ := Attempt.yields_getSecret.1 look
  cases hsecret : found.bind (·.secret?) with
  | some secret =>
    simp only [hsecret] at rest
    rw [(Attempt.fails_ofExcept.1 rest).1]
    rfl
  | none =>
    simp only [hsecret] at rest
    rcases Attempt.fails_bind.1 rest with drawn | ⟨t₃, fresh, t₄, rfl, drawn, store⟩
    · exact (Attempt.fails_drawKey.1 drawn).elim
    obtain rfl := Attempt.yields_drawKey.1 drawn
    rcases fails_sync (Attempt.fails_bind_pure.1 store) with rfl | rfl | ⟨old, -, ⟨⟩⟩
    · rfl
    · rfl

variable {settings : Setup} {pem : PemReader} {cp : ControlPlane} {ns : String}

namespace Issues

variable {t u : List Event}

theorem of_spared (h : ∀ e ∈ t, SparesSecrets e.call) : Issues pem ns t :=
  .unissued t fun e he _ stores => h e he _ (Event.address?_of_stored stores)

theorem prepend (before : ∀ e ∈ u, SparesSecrets e.call) (h : Issues pem ns t) : Issues pem ns (u ++ t) := by
  cases h with
  | unissued _ none =>
    refine .unissued _ fun e he => ?_
    rcases List.mem_append.1 he with he | he
    · exact fun _ stores => before e he _ (Event.address?_of_stored stores)
    · exact none e he
  | issued target ca address t₁ t₂ t₃ home before' sees after =>
    rw [← List.append_assoc]
    refine .issued target ca address _ t₂ t₃ home (fun e he => ?_) sees after
    rcases List.mem_append.1 he with he | he
    · exact before e he
    · exact before' e he

/-- What spares all secrets comes before the authority is seen to. -/
theorem bind {α β : Type} {x : Attempt α} {f : α → Attempt β} {r : Except Failure β}
    (h : (x >>= f).run.Plays t r) (spares : x.Only SparesSecrets)
    (rest : ∀ a u, (f a).run.Plays u r → Issues pem ns u) : Issues pem ns t := by
  rcases Attempt.plays_bind h with ⟨e, failed, -⟩ | ⟨t₁, a, t₂, rfl, yields, plays⟩
  · exact of_spared (Program.Plays.only failed spares)
  · exact (rest a t₂ plays).prepend (Program.Plays.only yields spares)

end Issues

theorem plays_router {t : List Event} {o : Outcome} (home : cp.metadata.namespaceName = some ns)
    (plays : (router settings cp).Plays t o) : Issues settings.pem ns t := by
  obtain ⟨r, plays⟩ : ∃ r, (attemptRouter settings cp).run.Plays t r := by
    rcases plays_settle.1 plays with h | ⟨e, h, -⟩
    · exact ⟨_, h⟩
    · exact ⟨_, h⟩
  rcases Attempt.plays_bind plays with ⟨e, failed, -⟩ | ⟨_, target, t, rfl, ofTarget, rest⟩
  · rw [(Attempt.fails_ofExcept.1 failed).1]
    exact .of_spared (by simp)
  obtain ⟨rfl, htarget⟩ := Attempt.yields_ofExcept.1 ofTarget
  obtain rfl : target.namespaceName = ns :=
    Option.some.inj ((Target.namespaceName_of htarget).1.symm.trans home)
  rw [List.nil_append]
  refine .bind rest (syncIdentity_spares ..) fun _ t rest => ?_
  refine .bind rest (syncService_spares ..) fun _ t rest => ?_
  refine .bind rest (routerAddress_spares ..) fun address t rest => ?_
  cases address with
  | none =>
    obtain ⟨rfl, -⟩ := Program.plays_pure.1 rest
    exact .of_spared (by simp)
  | some address =>
    rcases Attempt.plays_bind rest with ⟨e, failed, -⟩ | ⟨t₁, ca, t₂, rfl, seen, rest⟩
    · refine .unissued t fun e he o stores => ?_
      have : o ∈ stored t := List.mem_filterMap.2 ⟨e, he, stores⟩
      rw [fails_routerAuthority failed] at this
      cases this
    · refine .issued target ca address [] t₁ t₂ rfl (by simp) (yields_routerAuthority seen)
        (Program.Plays.only rest ?_)
      have spares {α : Type} {x : Attempt α} (h : x.Only SparesSecrets) :
          x.Only (StoresLeaves target ca address) :=
        h.mono fun c spares a about secret => absurd secret (spares a about)
      have leaf {name : String} (isLeaf : name ∈ Router.leafSecretNames) :=
        syncLeaf_stores target ca address isLeaf
      refine Attempt.Only.bind (Attempt.Only.bind (leaf ?_) fun _ => .bind (leaf ?_) fun _ => .pure _)
        fun _ => .bind (spares (sync_spares ?_)) fun _ => .pure _
      all_goals simp [Router.leafSecretNames, Object.kind]

/-- The router's part replaces no authority. -/
theorem router_applies (home : cp.metadata.namespaceName = some ns) :
    (router settings cp).Only fun c => ∀ o, c = .apply o → o.address ≠ authorityAddress ns := by
  let P (c : Call) : Prop := ∀ o, c = .apply o → o.address ≠ authorityAddress ns
  have spares {α : Type} {x : Attempt α} (h : x.Only SparesSecrets) : x.Only P := by
    refine h.mono ?_
    rintro _ spares o rfl heq
    exact spares _ rfl (by rw [heq]; rfl)
  refine only_settle (only_ofExcept_bind fun target htarget => ?_)
  obtain rfl : target.namespaceName = ns :=
    Option.some.inj ((Target.namespaceName_of htarget).1.symm.trans home)
  have leaf {ca : KeyedCertificate} {address name : String} (isLeaf : name ∈ Router.leafSecretNames) :
      (syncLeaf target ca address name).Only P := by
    refine (syncLeaf_stores target ca address isLeaf).mono ?_
    rintro _ stores o rfl heq
    obtain ⟨name, isLeaf, here, -⟩ := stores _ rfl (by rw [heq]; rfl)
    rw [heq, authorityAddress, Address.mk.injEq] at here
    rw [← here.2.2] at isLeaf
    revert isLeaf
    decide
  refine Attempt.Only.bind (spares (syncIdentity_spares ..)) fun _ =>
    .bind (spares (syncService_spares ..)) fun _ =>
      .bind (spares (routerAddress_spares ..)) fun address => ?_
  cases address with
  | none => exact .pure _
  | some address =>
    have look (name : String) : (Attempt.getSecret target.namespaceName name).Only P :=
      .bind (Program.Only.perform (by simp [P])) fun _ => .pure _
    refine Attempt.Only.bind (.bind (look _) fun found => ?_) fun ca =>
      .bind (.bind (leaf ?_) fun _ => .bind (leaf ?_) fun _ => .pure _) fun _ =>
        .bind (spares (sync_spares ?_)) fun _ => .pure _
    · cases found with
      | some secret => exact .ofExcept _
      | none =>
        exact .bind (.ofProgram (Program.Only.perform (by simp))) fun fresh =>
          .bind (sync_reach (by simp) (by simp) nofun) fun _ => .pure _
    all_goals simp [Router.leafSecretNames, Object.kind]

/-- Whether a part found no authority, and found one when it came to store its own. -/
def IsOvertaken (ns : String) (t : List Event) : Prop :=
  ⟨.get (authorityAddress ns), .ok none⟩ ∈ t ∧ ∃ o, ⟨.get (authorityAddress ns), .ok (some o)⟩ ∈ t

section Overlap

variable {ι : Type} [DecidableEq ι] {cps : ι → ControlPlane} {t : List (ι × Event)}
  {outcomes : ι → Outcome} {old : Option Object} {n : Nat}
  (home : ∀ i, (cps i).metadata.namespaceName = some ns)
  (turns : TakeTurns (fun i => router settings (cps i)) t outcomes)
  (whole : ∀ o, old = some o → o.HoldsAuthority settings.pem)
  (admitted : (Part.objectAt (authorityAddress ns)).Admits old (t.map (·.2)))
  (drawn : Part.keys.Admits n (t.map (·.2)))

theorem not_leaf_authority {name : String} (leaf : name ∈ Router.leafSecretNames) (ns ns' : String) :
    authorityAddress ns ≠ ⟨.secret, ns', name⟩ := by
  intro heq
  have : Router.authoritySecretName = name := congrArg Address.name heq
  revert leaf
  rw [← this]
  decide

include turns in
/-- The parts keep authorities whole. -/
theorem keeps_whole {e : Event} (he : e ∈ t.map (·.2)) (s : Option Object)
    (whole : ∀ o, s = some o → o.HoldsAuthority settings.pem)
    (_ : (Part.objectAt (authorityAddress ns)).Fits s e) :
    ∀ o, (Part.objectAt (authorityAddress ns)).after s e = some o → o.HoldsAuthority settings.pem := by
  obtain ⟨i, he⟩ := exists_own he
  exact holdsAuthority_after (fun _ stored => holdsAuthority_of_router (turns i) he stored) whole

include home turns in
/-- The parts replace no authority. -/
theorem kept_authority {e : Event} (he : e ∈ t.map (·.2)) (o : Object) (h : e.call = .apply o) :
    o.address ≠ authorityAddress ns := by
  obtain ⟨i, he⟩ := exists_own he
  exact (turns i).only (router_applies (home i)) e he o h

/-- `SeesTo pem ns t target ca address u`: of the events `t` of a part those of `u` see to the authority, and
its leaf secrets are of that authority. -/
structure SeesTo (pem : PemReader) (ns : String) (t : List Event) (target : Target)
    (ca : KeyedCertificate) (address : String) (u : List Event) : Prop where
  home : target.namespaceName = ns
  sees : SeesAuthority pem target ca u
  sub : ∀ e ∈ u, e ∈ t
  only : ∀ e ∈ t, e.call.address? = some (authorityAddress ns) → e ∈ u
  leaves : ∀ name ∈ Router.leafSecretNames, ∀ e ∈ t, ∀ o, e.storedAt? ⟨.secret, ns, name⟩ = some o →
    ∃ leaf, IsLeaf target.namespaceName ca address name leaf ∧ o = leaf.ownedBy target.owner

/-- A part that stores any secret sees to the authority. -/
theorem Issues.seesTo {t : List Event} (h : Issues pem ns t) {e : Event} {o : Object} (he : e ∈ t)
    (stores : e.stored? = some o) (secret : o.kind = .secret) :
    ∃ target ca address u, SeesTo pem ns t target ca address u := by
  cases h with
  | unissued _ none => exact absurd secret (none e he o stores)
  | issued target ca address t₁ t₂ t₃ home before sees after =>
    subst home
    refine ⟨target, ca, address, t₂, rfl, sees, fun e he => by simp [he], fun e he about => ?_,
      fun name leaf e he o stores => ?_⟩
    · rcases List.mem_append.1 he with he | he
      · exact absurd rfl (before e he _ about)
      rcases List.mem_append.1 he with he | he
      · exact he
      · obtain ⟨name, leaf, heq, -⟩ := after e he _ about rfl
        exact absurd heq (not_leaf_authority leaf _ _)
    · obtain ⟨stores, here⟩ := Event.storedAt?_eq_some.1 stores
      have about := Event.address?_of_stored stores
      rcases List.mem_append.1 he with he | he
      · exact absurd (by rw [here]) (before e he _ about)
      rcases List.mem_append.1 he with he | he
      · have := sees.stored o (List.mem_filterMap.2 ⟨e, he, stores⟩)
        exact absurd (this.symm.trans here) (not_leaf_authority leaf _ _)
      · obtain ⟨name', leaf', heq, stored⟩ := after e he _ about (by rw [here])
        obtain rfl : name = name' := by
          rw [here] at heq
          exact congrArg Address.name heq
        exact stored o (Event.stores?_of_stored stores)

/-- The events about the authority are those that see to it. -/
theorem SeesTo.isOvertaken_iff {t u : List Event} {target : Target} {ca : KeyedCertificate}
    {address : String} (h : SeesTo pem ns t target ca address u) : IsOvertaken ns t ↔ IsOvertaken ns u := by
  constructor
  · rintro ⟨missing, o, found⟩
    exact ⟨h.only _ missing rfl, o, h.only _ found rfl⟩
  · rintro ⟨missing, o, found⟩
    exact ⟨h.sub _ missing, o, h.sub _ found⟩

include home turns in
/-- Whoever stores an authority has made it, with a key of its own. -/
theorem made_of_stored {i : ι} {e : Event} {o : Object} (he : e ∈ own i t)
    (stores : e.storedAt? (authorityAddress ns) = some o) :
    ∃ s fresh, o = .secret s ∧
      KeyedCertificate.ofSecret settings.pem s = .ok (.authority Router.authoritySecretName fresh) ∧
      ⟨.drawKey, fresh⟩ ∈ own i t := by
  obtain ⟨stored, here⟩ := Event.storedAt?_eq_some.1 stores
  obtain ⟨target, ca, address, u, h⟩ :=
    (plays_router (home i) (turns i)).seesTo he stored (congrArg Address.kind here)
  have inside := h.only e he ((Event.address?_of_stored stored).trans (congrArg some here))
  cases h.sees with
  | kept found secret isSecret loaded =>
    obtain rfl := List.mem_singleton.1 inside
    cases stored
  | made found fresh r t' missing new synced =>
    have inside : o ∈ EdgePlane.stored (⟨.get _, .ok found⟩ :: ⟨.drawKey, fresh⟩ :: t') :=
      List.mem_filterMap.2 ⟨e, inside, stored⟩
    obtain rfl := stored_syncOnce synced o inside
    exact ⟨_, fresh, rfl, new ▸ KeyedCertificate.ofSecret_authoritySecret .., h.sub _ (by simp)⟩

include turns whole admitted in
/-- Whatever is found in the place of the authority is one. -/
theorem found_authority {o : Object}
    (found : ⟨.get (authorityAddress ns), .ok (some o)⟩ ∈ t.map (·.2)) : o.HoldsAuthority settings.pem := by
  obtain ⟨s, isWhole, fits⟩ := admitted.fits (I := fun s => ∀ o, s = some o → o.HoldsAuthority settings.pem)
    (fun e he => keeps_whole turns he) whole _ found
  exact isWhole o (fits rfl).symm

include home turns admitted drawn in
/-- An authority that has come up is not that of a key which a part has drawn but stored nowhere. -/
theorem authority_of_other {i : ι} {fresh : KeyPair} {o : Object} (nothing : old = none)
    (found : ⟨.get (authorityAddress ns), .ok (some o)⟩ ∈ t.map (·.2))
    (draws : ⟨.drawKey, fresh⟩ ∈ own i t)
    (unstored : ∀ e ∈ own i t, e.storedAt? (authorityAddress ns) = none) :
    ∃ s stored, (Part.objectAt (authorityAddress ns)).run old (t.map (·.2)) = some (.secret s) ∧
      KeyedCertificate.ofSecret settings.pem s = .ok stored ∧ stored.certificate.key ≠ fresh := by
  have kept := fun e he => kept_authority (e := e) home turns he
  have final := Part.objectAt_run_of_found kept admitted found
  subst nothing
  obtain ⟨e, he, stores⟩ := Part.exists_stored kept admitted final
  obtain ⟨j, he⟩ := exists_own he
  obtain ⟨s, key, rfl, loaded, drawn'⟩ := made_of_stored home turns he stores
  refine ⟨s, _, final, loaded, fun same => ?_⟩
  obtain rfl : key = fresh := same
  obtain rfl := Part.keys_own drawn drawn' draws
  rw [unstored e he] at stores
  cases stores

include home turns whole admitted drawn in
/-- In the end the authority stands there that a part has seen to, unless the part was overtaken: then
it is another one. -/
theorem SeesTo.authority {i : ι} {target : Target} {ca : KeyedCertificate} {address : String}
    {u : List Event} (h : SeesTo settings.pem ns (own i t) target ca address u) :
    ∃ secret stored, (Part.objectAt (authorityAddress ns)).run old (t.map (·.2)) =
        some (.secret secret) ∧
      KeyedCertificate.ofSecret settings.pem secret = .ok stored ∧ ca.certificate.key = ca.key ∧
      (IsOvertaken ns (own i t) ∧ stored.certificate ≠ ca.certificate ∨
        ¬ IsOvertaken ns (own i t) ∧ stored = ca) := by
  have kept := fun e he => kept_authority (e := e) home turns he
  have mem {e : Event} (he : e ∈ u) : e ∈ t.map (·.2) := mem_of_own (h.sub e he)
  rw [h.isOvertaken_iff]
  obtain ⟨rfl, sees, sub, only, -⟩ := h
  cases sees with
  | kept found secret isSecret loaded =>
    have inside := mem (List.mem_singleton_self _)
    obtain ⟨s, stored, rfl, hs, hkey⟩ := found_authority turns whole admitted inside
    obtain rfl := Option.some.inj isSecret
    obtain rfl := Except.ok.inj (hs.symm.trans loaded)
    refine ⟨s, stored, Part.objectAt_run_of_found kept admitted inside, hs, hkey, .inr ⟨?_, rfl⟩⟩
    rintro ⟨missing, -⟩
    cases List.mem_singleton.1 missing
  | made found fresh r t' missing new synced =>
    obtain rfl : found = none := by
      cases found with
      | none => rfl
      | some o =>
        obtain ⟨s, stored, rfl, -⟩ := found_authority turns whole admitted (mem List.mem_cons_self)
        cases missing
    have nothing : old = none := Part.eq_none_of_missing admitted (mem List.mem_cons_self)
    obtain ⟨rfl, -⟩ | ⟨o, -, ⟨⟩, -⟩ | ⟨o, rfl, -⟩ := yields_sync synced
    · -- The new authority was stored, so it is the one that stands there.
      let made := (Object.secret
        (ca.authoritySecret Router.authoritySecretName target.namespaceName)).ownedBy target.owner
      have here : made.address = authorityAddress target.namespaceName := Object.address_ownedBy ..
      have stores : Event.storedAt? (authorityAddress target.namespaceName) ⟨.create made, .ok ()⟩ =
          some made := Event.storedAt?_eq_some.2 ⟨rfl, here⟩
      refine ⟨_, ca, Part.objectAt_run_of_stored kept admitted
        (mem (.tail _ (.tail _ (.tail _ (.head _))))) stores,
        KeyedCertificate.ofSecret_authoritySecret .., by rw [new]; rfl, .inr ⟨?_, rfl⟩⟩
      rintro ⟨-, o, found⟩
      simp at found
    · -- Another was stored by then, made by another part with a key of its own.
      obtain ⟨s, stored, final, hs, other⟩ := authority_of_other home turns admitted drawn nothing
        (mem (.tail _ (.tail _ (.head _)))) (sub _ (.tail _ (.head _))) fun e he =>
          Option.eq_none_iff_forall_ne_some.2 fun o stores => by
            obtain ⟨stored, here⟩ := Event.storedAt?_eq_some.1 stores
            have inside := only e he ((Event.address?_of_stored stored).trans (congrArg some here))
            have inside : o ∈ EdgePlane.stored _ := List.mem_filterMap.2 ⟨e, inside, stored⟩
            cases inside
      refine ⟨s, stored, final, hs, by rw [new]; rfl,
        .inl ⟨⟨.head _, _, .tail _ (.tail _ (.head _))⟩, fun same => other ?_⟩⟩
      rw [same, new]
      rfl

end Overlap

/-- A part with a clean outcome has stored both leaf secrets. -/
theorem stores_leaf {t : List Event} {o : Outcome} (home : cp.metadata.namespaceName = some ns)
    (plays : (router settings cp).Plays t o) (clean : o.isClean) {name : String}
    (leaf : name ∈ Router.leafSecretNames) : ∃ e ∈ t, ∃ o, e.storedAt? ⟨.secret, ns, name⟩ = some o := by
  obtain ⟨target, address, ca, amqps, internal, h⟩ := cleanRouter plays clean
  obtain rfl : target.namespaceName = ns :=
    Option.some.inj ((Target.namespaceName_of h.target_eq).1.symm.trans home)
  obtain ⟨u, -, hstored⟩ := h.stored
  obtain ⟨o, member, here⟩ : ∃ o ∈ stored t, o.address = ⟨.secret, target.namespaceName, name⟩ := by
    rw [hstored]
    simp only [Router.leafSecretNames, List.mem_cons, List.not_mem_nil, or_false] at leaf
    rcases leaf with rfl | rfl
    · exact ⟨amqps.ownedBy target.owner, by simp, by simp [h.amqps_leaf.address_eq]⟩
    · exact ⟨internal.ownedBy target.owner, by simp, by simp [h.internal_leaf.address_eq]⟩
  obtain ⟨e, he, stores⟩ := List.mem_filterMap.1 member
  exact ⟨e, he, o, Event.storedAt?_eq_some.2 ⟨stores, here⟩⟩

section Overlap

variable {ι : Type} [DecidableEq ι] {cps : ι → ControlPlane} {t : List (ι × Event)}
  {outcomes : ι → Outcome} {w w' : World}
  (home : ∀ i, (cps i).metadata.namespaceName = some ns)
  (whole : ∀ o, w.cluster.object? (authorityAddress ns) = some o → o.HoldsAuthority settings.pem)
  (turns : TakeTurns (fun i => router settings (cps i)) t outcomes)
  (follows : w.Follows (t.map (·.2)) w')
include home whole turns follows

/-- A leaf secret and the authority as they stand in the end. -/
theorem leaf_written {i : ι} (clean : (outcomes i).isClean) {name : String}
    (isLeaf : name ∈ Router.leafSecretNames) :
    ∃ leaf i authority ca, w'.cluster.object? ⟨.secret, ns, name⟩ = some (.secret leaf) ∧
      WritesLast i ⟨.secret, ns, name⟩ (.secret leaf) t ∧
      w'.cluster.object? (authorityAddress ns) = some (.secret authority) ∧
      KeyedCertificate.ofSecret settings.pem authority = .ok ca ∧
      ((∃ address, Certifies leaf address ca.certificate) ↔ ¬ IsOvertaken ns (own i t)) := by
  obtain ⟨admitted, final⟩ := follows.objectAt (authorityAddress ns)
  obtain ⟨e, he, o, stores⟩ := stores_leaf (home i) (turns i) clean isLeaf
  obtain ⟨i, o, last⟩ := exists_writesLast (mem_of_own he) stores
  obtain ⟨e, he, stores⟩ := last.mem_own
  obtain ⟨stored, here⟩ := Event.storedAt?_eq_some.1 stores
  obtain ⟨target, ca, address, u, seesTo⟩ := (plays_router (home i) (turns i)).seesTo he stored
    (congrArg Address.kind here)
  obtain ⟨authority, kept, stands, loaded, hkey, known⟩ :=
    seesTo.authority home turns whole admitted follows.keys
  obtain ⟨leaf', isLeaf', rfl⟩ := seesTo.leaves name isLeaf e he o stores
  obtain ⟨leaf, eq, -, certifies⟩ := isLeaf'.certifies hkey target.owner
  rw [eq] at last
  obtain ⟨before, now⟩ := last.run (w.cluster.object? ⟨.secret, ns, name⟩)
  rw [Object.keepingStatus_secret] at now
  refine ⟨leaf, i, authority, kept, (follows.objectAt _).2.trans now, last, final.trans stands,
    loaded, ?_⟩
  rcases known with ⟨overtaken, other⟩ | ⟨free, rfl⟩
  · refine iff_of_false ?_ (not_not_intro overtaken)
    rintro ⟨address', certifies'⟩
    have same := certifies'.authority.symm.trans certifies.authority
    rw [Option.some.injEq, SecretData.certificate.injEq] at same
    exact other same
  · exact iff_of_true ⟨address, certifies⟩ free

/-- However the router's parts of control planes in one namespace overlap, and whatever fails: once one
of them had a clean outcome, each leaf secret is certified by the stored authority exactly if the part
that wrote it last was not overtaken. -/
theorem certified_iff_not_overtaken (clean : ∃ i, (outcomes i).isClean) :
    ∃ authority ca, w'.cluster.object? (authorityAddress ns) = some (.secret authority) ∧
      KeyedCertificate.ofSecret settings.pem authority = .ok ca ∧
      ∀ name ∈ Router.leafSecretNames, ∃ leaf i,
        w'.cluster.object? ⟨.secret, ns, name⟩ = some (.secret leaf) ∧
        WritesLast i ⟨.secret, ns, name⟩ (.secret leaf) t ∧
        ((∃ address, Certifies leaf address ca.certificate) ↔ ¬ IsOvertaken ns (own i t)) := by
  obtain ⟨i, clean⟩ := clean
  have written {name : String} (isLeaf : name ∈ Router.leafSecretNames) :=
    leaf_written home whole turns follows clean isLeaf
  obtain ⟨-, -, authority, ca, -, -, stands, loaded, -⟩ :=
    written (show Router.amqpsSecretName ∈ Router.leafSecretNames by decide)
  refine ⟨authority, ca, stands, loaded, fun name isLeaf => ?_⟩
  obtain ⟨leaf, i, authority', ca', stored, last, stands', loaded', certified⟩ := written isLeaf
  obtain rfl : authority = authority' := by simpa using stands.symm.trans stands'
  obtain rfl := Except.ok.inj (loaded.symm.trans loaded')
  exact ⟨leaf, i, stored, last, certified⟩

end Overlap

/-- Two control planes in one namespace. -/
def neighbour (east : Bool) : ControlPlane :=
  { plainControlPlane "a@b.c" (.ofPlain "one") {} with
    metadata := { name := some (if east then "east" else "west"), namespaceName := some "ns",
                  uid := some (if east then "e" else "w") } }

/-- The eastern one is overtaken just after it has found no authority. -/
def overtaking : List Bool := .replicate 9 true ++ .replicate 20 false ++ .replicate 10 true

/-- The router's parts of the two take turns in an empty world. -/
def overlapped : (Bool → Program Outcome) × List (Bool × Event) × World :=
  ({} : World).turns overtaking fun east => router .standard (neighbour east)

theorem takeTurns_overlapped :
    TakeTurns (fun east => router .standard (neighbour east)) overlapped.2.1 fun _ => .proceed :=
  World.takeTurns_turns (by decide +kernel)

theorem follows_overlapped : ({} : World).Follows (overlapped.2.1.map (·.2)) overlapped.2.2 :=
  World.follows_turns ..

theorem certified_iff_of_overlapped :
    (∀ east, (neighbour east).metadata.namespaceName = some "ns") ∧
      ∃ authority ca, overlapped.2.2.cluster.object? (authorityAddress "ns") = some (.secret authority) ∧
        KeyedCertificate.ofSecret .standard authority = .ok ca ∧
        ∀ name ∈ Router.leafSecretNames, ∃ leaf east,
          overlapped.2.2.cluster.object? ⟨.secret, "ns", name⟩ = some (.secret leaf) ∧
          WritesLast east ⟨.secret, "ns", name⟩ (.secret leaf) overlapped.2.1 ∧
          ((∃ address, Certifies leaf address ca.certificate) ↔
            ¬ IsOvertaken "ns" (own east overlapped.2.1)) :=
  ⟨fun _ => rfl, certified_iff_not_overtaken (fun _ => rfl) (fun o h => by cases h)
    takeTurns_overlapped follows_overlapped ⟨true, rfl⟩⟩

/-- The authority that stands there in the end is not the one that the leaf secret is of. -/
theorem run_overlapped :
    ((overlapped.2.2.cluster.object? (authorityAddress "ns")).bind (·.secret?)).bind
        (fun s => (KeyedCertificate.ofSecret .standard s).toOption) =
      some (.authority Router.authoritySecretName ⟨0⟩) ∧
    ((overlapped.2.2.cluster.object? ⟨.secret, "ns", Router.amqpsSecretName⟩).bind (·.secret?)).bind
        (·.data? authorityKey) =
      some (.certificate (KeyedCertificate.authority Router.authoritySecretName ⟨3⟩).certificate) := by
  decide +kernel

/-- Parts that overlap can all have a clean outcome and leave certificates of an authority that is not
stored. -/
theorem not_always_certified : ¬ ∀ (t : List (Bool × Event)) (w : World),
    TakeTurns (fun east => router .standard (neighbour east)) t (fun _ => .proceed) →
    ({} : World).Follows (t.map (·.2)) w →
    ∃ authority ca, w.cluster.object? (authorityAddress "ns") = some (.secret authority) ∧
      KeyedCertificate.ofSecret .standard authority = .ok ca ∧
      ∀ name ∈ Router.leafSecretNames, ∃ leaf address,
        w.cluster.object? ⟨.secret, "ns", name⟩ = some (.secret leaf) ∧
        Certifies leaf address ca.certificate := by
  intro certified
  obtain ⟨authority, ca, stands, loaded, leaves⟩ :=
    certified overlapped.2.1 overlapped.2.2 takeTurns_overlapped follows_overlapped
  obtain ⟨leaf, address, stored, certifies⟩ :=
    leaves Router.amqpsSecretName (by simp [Router.leafSecretNames])
  obtain ⟨hauthority, hleaf⟩ := run_overlapped
  have same : ca = .authority Router.authoritySecretName ⟨0⟩ := by
    simpa [stands, Object.secret?, loaded, Except.toOption] using hauthority
  have other : ca.certificate = (KeyedCertificate.authority Router.authoritySecretName ⟨3⟩).certificate := by
    simpa [stored, Object.secret?, certifies.authority] using hleaf
  rw [same] at other
  exact absurd other (by decide)

end Reconcile

end EdgePlane
