import EdgePlane.Proofs.Happening
import EdgePlane.Proofs.Round

/-!
# Restarts after a change of the database

The controller reads the settings of its database when a pod starts, so its pods are replaced by the pass
that changes the settings. Between the change and the replacement the pass makes other calls, any of
which may fail. The next pass finds the settings as they are declared, and replaces no pods.
-/

namespace EdgePlane.Reconcile

open Kubernetes Simulation

variable {settings : Setup} {cp : ControlPlane} {ns : String} {t : List Event}

/-- Whether a round got as far as the management interface. -/
def Round.Reaches (r : Round settings) (ns : String) : Prop :=
  ∃ answer, ⟨.connect (internalUrl ns), answer⟩ ∈ r.trace

/-- What a round does about the settings of the database. -/
inductive Settles (cp : ControlPlane) (ns : String) : List Event → Prop
  /-- It stores none. -/
  | unstored (t : List Event) (unstored : ∀ e ∈ t, e.storedAt? (databaseAddress ns) = none)
    (objects : ∀ e ∈ t, e.call.isAboutObject) : Settles cp ns t
  /-- It stores the declared ones, after it looked up those that stood there. Pods are replaced if these
  were different, and the interface comes after that. -/
  | stored (t₁ u t₂ t₃ : List Event) (found : Option Object) (owner : OwnerReference)
    (result : SyncResult) (before : ∀ e ∈ t₁, e.storedAt? (databaseAddress ns) = none)
    (synced : (sync owner .apply (.secret (databaseSecretOf cp ns))).Yields u result)
    (between : ∀ e ∈ t₂, e.storedAt? (databaseAddress ns) = none)
    (objects : ∀ e ∈ t₁ ++ ⟨.get (databaseAddress ns), .ok found⟩ :: u ++ t₂, e.call.isAboutObject)
    (after : ∀ e ∈ t₃, e.storedAt? (databaseAddress ns) = none)
    (restarts : restarted ns Controller.name ∈ t₃ ↔ isDatabaseChanged cp ns found = true ∧
      ∃ answer, ⟨.connect (internalUrl ns), answer⟩ ∈ t₃) :
    Settles cp ns (t₁ ++ ⟨.get (databaseAddress ns), .ok found⟩ :: u ++ t₂ ++ t₃)

/-- A bootstrap neither stores settings of the database nor asks for a replacement of the controller's
pods. -/
theorem Bootstraps.apart {target : Target} (h : Bootstraps target cp t) :
    ∀ e ∈ t, e.storedAt? (databaseAddress target.namespaceName) = none ∧
      e.call ≠ .restart target.namespaceName Controller.name := by
  have quiet {e : Event} (h : e.call.isQuiet) :
      e.storedAt? (databaseAddress target.namespaceName) = none ∧
        e.call ≠ .restart target.namespaceName Controller.name := by
    refine ⟨storedAt_of_within (W := fun _ => False) (.inl h) (fun _ h => h.elim), fun heq => ?_⟩
    simp [heq, Call.isQuiet] at h
  cases h with
  | unavailable _ allQuiet => exact fun e he => quiet (allQuiet e he)
  | available t₁ t₂ t₃ session before opened after =>
    intro e he
    rcases List.mem_append.1 he with he | he
    · exact quiet (before e he)
    rcases List.mem_append.1 he with he | he
    · rcases Program.Plays.only opened (openSession_reach target cp.spec.user) e he with
        within | account | restart
      · refine ⟨storedAt_of_within within ?_, fun heq => ?_⟩
        · rintro o rfl heq
          simp [databaseAddress, PortManager.credentialsSecretName,
            Controller.databaseSecretName] at heq
        · simp [heq, Call.Within, Call.isQuiet, Call.stores?] at within
      · refine ⟨storedAt_of_account account _, fun heq => ?_⟩
        simp [heq, Call.isAccountAt] at account
      · obtain ⟨c, r⟩ := e
        obtain rfl := restart
        refine ⟨rfl, fun heq => ?_⟩
        simp [PortManager.name, Controller.name] at heq
    · rcases after e he with h | registers
      · exact quiet h
      · refine ⟨?_, fun heq => ?_⟩
        · obtain ⟨c, r⟩ := e
          cases c <;> first | rfl | simp [Call.isRegistration] at registers
        · simp [heq, Call.isRegistration] at registers

/-- A lookup stores nothing. -/
theorem unstored_of_lookup {a : Address} {e : Event} (h : ∃ b, e.call = .get b) :
    e.storedAt? a = none ∧ e.call.isAboutObject := by
  obtain ⟨c, r⟩ := e
  obtain ⟨b, rfl⟩ := h
  exact ⟨rfl, rfl⟩

/-- However syncing the objects ends, it comes after the lookups `t₀` and is followed by `v`, which
stores no settings. -/
theorem settles_of_syncController {target : Target} {t₀ u v : List Event}
    {res : Except Failure (Bool × Bool)} (lookups : ∀ e ∈ t₀, ∃ b, e.call = .get b)
    (synced : (syncController settings target cp).run.Plays u res)
    (nothing : ∀ e, res = .error e → v = [])
    (after : ∀ e ∈ v, e.storedAt? (databaseAddress target.namespaceName) = none)
    (restarts : ∀ changed, (∀ existed changed', res = .ok (existed, changed') → changed' = changed) →
      (restarted target.namespaceName Controller.name ∈ v ↔ changed = true ∧
        ∃ answer, ⟨.connect (internalUrl target.namespaceName), answer⟩ ∈ v)) :
    Settles cp target.namespaceName (t₀ ++ (u ++ v)) := by
  have looked (e : Event) (he : e ∈ t₀) := unstored_of_lookup
    (a := databaseAddress target.namespaceName) (lookups e he)
  have objects := Program.Plays.only synced (syncController_objects settings target cp)
  rcases plays_syncController synced with ⟨e, rfl, none⟩ |
    ⟨t₁, found, t₂, result, t₄, rfl, before, stored, between, changed⟩
  · rw [nothing e rfl, List.append_nil]
    refine .unstored _ (fun e he => ?_) fun e he => ?_
    · exact (List.mem_append.1 he).elim (fun h => (looked e h).1) (none e)
    · exact (List.mem_append.1 he).elim (fun h => (looked e h).2) (objects e)
  · have whole : Settles cp _ _ := .stored (t₀ ++ t₁) t₂ t₄ v found target.owner result
      (fun e he => (List.mem_append.1 he).elim (fun h => (looked e h).1) (before e)) stored between
      (fun e he => by
        rw [List.append_assoc, List.append_assoc, List.cons_append] at he
        exact (List.mem_append.1 he).elim (fun h => (looked e h).2) (objects e)) after
      (restarts _ fun existed changed' h => changed existed changed' h)
    simpa only [List.append_assoc, List.cons_append] using whole

theorem Round.settles (r : Round settings) (home : r.cp.metadata.namespaceName = some ns) :
    Settles r.cp ns r.trace := by
  obtain ⟨cp, trace, outcome, plays⟩ := r
  dsimp only at home ⊢
  rcases plays_controller plays with rfl | ⟨target, htarget, t₀, t, rfl, lookups, brings⟩
  · exact .unstored [] (by simp) (by simp)
  obtain rfl : ns = target.namespaceName :=
    Option.some.inj (home.symm.trans (Target.namespaceName_of htarget).1)
  rcases brings with rfl | brings
  · rw [List.append_nil]
    exact .unstored _ (fun e he => (unstored_of_lookup (lookups e he)).1)
      fun e he => (unstored_of_lookup (a := databaseAddress target.namespaceName) (lookups e he)).2
  cases brings with
  | unsynced _ e synced =>
    simpa using settles_of_syncController (v := []) lookups synced (by simp) (by simp) (by simp)
  | fresh _ changed synced =>
    simpa using settles_of_syncController (v := []) lookups synced (by simp) (by simp) (by simp)
  | stuck _ e synced =>
    exact settles_of_syncController lookups synced (by rintro e ⟨⟩)
      (by simp [Event.storedAt?, Event.stored?]) (by simp [restarted])
  | reached _ u changed answer synced bootstrapped =>
    have apart := bootstrapped.apart
    refine settles_of_syncController lookups synced (by rintro e ⟨⟩) (fun e he => ?_)
      fun changed' h => ?_
    · rcases List.mem_append.1 he with he | he
      · split at he
        · obtain rfl := List.mem_singleton.1 he
          rfl
        · cases he
      · rcases List.mem_cons.1 he with rfl | he
        · rfl
        · exact (apart e he).1
    · obtain rfl := h true changed rfl
      have none : restarted target.namespaceName Controller.name ∉ u :=
        fun h => (apart _ h).2 rfl
      simp only [List.mem_append, List.mem_cons, none, or_false]
      cases changed <;> simp [restarted]

/-- Calls about objects neither replace pods nor turn to the interface. -/
theorem not_mem_of_objects (ns : String) (h : ∀ e ∈ t, e.call.isAboutObject) :
    restarted ns Controller.name ∉ t ∧ ∀ answer, ⟨.connect (internalUrl ns), answer⟩ ∉ t := by
  refine ⟨fun he => ?_, fun answer he => ?_⟩ <;> have := h _ he <;>
    simp [restarted, Call.isAboutObject] at this

/-- The declared settings of the database, as an owner has them. -/
def declaredSettings (cp : ControlPlane) (ns : String) (owner : OwnerReference) : Object :=
  (Object.secret (databaseSecretOf cp ns)).ownedBy owner

namespace Settles

/-- Settings are stored at most once, and as they are declared. -/
theorem storedAt (h : Settles cp ns t) :
    t.filterMap (·.storedAt? (databaseAddress ns)) = [] ∨
      ∃ owner, t.filterMap (·.storedAt? (databaseAddress ns)) = [declaredSettings cp ns owner] := by
  cases h with
  | unstored _ unstored => exact .inl (List.filterMap_eq_nil_iff.2 unstored)
  | stored t₁ u t₂ t₃ found owner result before synced between objects after =>
    refine .inr ⟨owner, ?_⟩
    have look : (⟨.get (databaseAddress ns), .ok found⟩ : Event).storedAt? (databaseAddress ns) =
        none := rfl
    have once : u.filterMap (·.storedAt? (databaseAddress ns)) = [declaredSettings cp ns owner] := by
      rw [storedAt_eq, stored_sync synced]
      exact List.filter_cons_of_pos (decide_eq_true rfl)
    simp only [List.filterMap_append, List.filterMap_cons, look, once,
      List.filterMap_eq_nil_iff.2 before, List.filterMap_eq_nil_iff.2 between,
      List.filterMap_eq_nil_iff.2 after, List.nil_append, List.append_nil]

/-- Pods are replaced by a pass that finds other settings than the declared ones and that gets as far as
the interface. -/
theorem restarts_iff (h : Settles cp ns t) {s : Option Object}
    (admitted : (Part.objectAt (databaseAddress ns)).Admits s t) :
    restarted ns Controller.name ∈ t ↔ isDatabaseChanged cp ns s = true ∧
      ∃ answer, ⟨.connect (internalUrl ns), answer⟩ ∈ t := by
  cases h with
  | unstored _ unstored objects =>
    simp [not_mem_of_objects ns objects]
  | stored t₁ u t₂ t₃ found owner result before synced between objects after restarts =>
    obtain rfl : found = s := by
      simp only [List.append_assoc, List.cons_append, Part.admits_append, Part.admits_cons] at admitted
      rw [Part.objectAt_run_of_nil (List.filterMap_eq_nil_iff.2 before)] at admitted
      exact admitted.2.1 rfl
    have early := not_mem_of_objects ns objects
    rw [List.mem_append, or_iff_right early.1, restarts]
    refine and_congr_right fun _ => exists_congr fun answer => ?_
    rw [List.mem_append, or_iff_right (early.2 answer)]

/-- A change of the settings comes before any replacement of pods. -/
theorem before_change {t₁ t₂ : List Event} {e : Event} (h : Settles cp ns (t₁ ++ e :: t₂)) {o : Object}
    (stores : e.storedAt? (databaseAddress ns) = some o) :
    restarted ns Controller.name ∉ t₁ := by
  generalize ht : t₁ ++ e :: t₂ = t at h
  cases h with
  | unstored _ unstored =>
    rw [unstored e (by simp [← ht])] at stores
    cases stores
  | stored u₁ u u₂ t₃ found owner result before synced between objects after restarts =>
    have unstored : e ∉ t₃ := fun he => by
      rw [after e he] at stores
      cases stores
    rcases List.append_eq_append_iff.1 ht with ⟨x, hx, -⟩ | ⟨x, rfl, hx⟩
    · exact fun he => (not_mem_of_objects ns objects).1 (hx ▸ List.mem_append_left x he)
    · refine absurd ?_ unstored
      rw [hx]
      simp

/-- A change of the settings is the only write of them, and declared settings are left in the end. -/
theorem only_change {t₁ t₂ : List Event} {e : Event} (h : Settles cp ns (t₁ ++ e :: t₂)) {o : Object}
    (stores : e.storedAt? (databaseAddress ns) = some o) :
    t₁.filterMap (·.storedAt? (databaseAddress ns)) = [] ∧ ∃ owner, o = declaredSettings cp ns owner ∧
      ∀ s, (Part.objectAt (databaseAddress ns)).run s (t₁ ++ e :: t₂) =
        some (declaredSettings cp ns owner) := by
  rcases h.storedAt with none | ⟨owner, once⟩
  · simp [stores] at none
  · have last (s : Option Object) : (Part.objectAt (databaseAddress ns)).run s (t₁ ++ e :: t₂) =
        some (declaredSettings cp ns owner) := by
      rw [Part.objectAt_run_singleton once]
      exact congrArg some (Object.keepingStatus_secret _ _)
    rw [List.filterMap_append, List.filterMap_cons, stores] at once
    obtain ⟨before, tail⟩ | ⟨-, nothing⟩ := List.append_eq_singleton_iff.1 once
    · exact ⟨before, owner, (List.cons.inj tail).1, last⟩
    · cases nothing

end Settles

/-- The keys under which the settings of the database are stored. -/
def databaseKeys : List String := ["provider", "name", "user", "password", "host", "port"]

/-- The value that an object holds under a key. -/
def valueAt? (o : Option Object) (key : String) : Option SecretValue :=
  (o.bind (·.secret?)).bind (·.value? key)

/-- Settings count as changed when one of their values is. -/
theorem isDatabaseChanged_iff (cp : ControlPlane) (ns : String) (s : Secret) (owner : OwnerReference) :
    isDatabaseChanged cp ns (some (.secret s)) = true ↔
      ∃ key ∈ databaseKeys, valueAt? (some (.secret s)) key ≠
        valueAt? (some ((Object.secret (databaseSecretOf cp ns)).ownedBy owner)) key := by
  have entries : (databaseSecretOf cp ns).stringData.map (·.entries) =
      some [("provider", cp.spec.database.provider), ("name", cp.spec.database.databaseName),
        ("user", cp.spec.database.user), ("password", cp.spec.database.password),
        ("host", cp.spec.database.host), ("port", Controller.databasePort cp.spec.database)] := rfl
  have declared (key : String) :
      valueAt? (some ((Object.secret (databaseSecretOf cp ns)).ownedBy owner)) key =
        ((databaseSecretOf cp ns).stringData? key).map .text := rfl
  have stored (key : String) : valueAt? (some (.secret s)) key = s.value? key := rfl
  simp only [isDatabaseChanged, Option.bind_some, Object.secret?, Option.any_some,
    Secret.isChangedBy, entries, Option.getD_some, List.any_cons, List.any_nil, Bool.or_eq_true,
    decide_eq_true_eq, Bool.false_eq_true, or_false, databaseKeys, List.mem_cons,
    List.not_mem_nil, exists_eq_or_imp, exists_eq_left, declared, stored]
  rfl

/-- The settings that are stored after some rounds. -/
def settingsAfter (ns : String) (start : Option Object) (rounds : List (Round settings)) :
    Option Object :=
  (Part.objectAt (databaseAddress ns)).run start (history rounds)

/-- Over a run of rounds, pods are replaced by each round that finds other settings than the declared
ones and that gets as far as the interface. -/
theorem restarted_mem_history_iff {rounds : List (Round settings)} {start : Option Object}
    (home : ∀ r ∈ rounds, r.cp.metadata.namespaceName = some ns)
    (admitted : (Part.objectAt (databaseAddress ns)).Admits start (history rounds)) :
    restarted ns Controller.name ∈ history rounds ↔ ∃ l r l', rounds = l ++ r :: l' ∧
      isDatabaseChanged r.cp ns (settingsAfter ns start l) = true ∧ r.Reaches ns :=
  Part.mem_flatMap_iff (fun r hr _ seen => (r.settles (home r hr)).restarts_iff seen) admitted

/-- A round leaves the settings as they are or stores the declared ones. -/
theorem Round.leaves (r : Round settings) (home : r.cp.metadata.namespaceName = some ns)
    (s : Option Object) :
    (Part.objectAt (databaseAddress ns)).run s r.trace = s ∨
      ∃ owner, (Part.objectAt (databaseAddress ns)).run s r.trace =
        some (declaredSettings r.cp ns owner) := by
  rcases (r.settles home).storedAt with none | ⟨owner, once⟩
  · exact .inl (Part.objectAt_run_of_nil none)
  · refine .inr ⟨owner, (Part.objectAt_run_singleton once).trans ?_⟩
    exact congrArg some (Object.keepingStatus_secret _ _)

/-- Settings do not change while the same database is declared. -/
theorem isDatabaseChanged_declared {cp' : ControlPlane} (same : cp'.spec.database = cp.spec.database)
    (owner : OwnerReference) :
    isDatabaseChanged cp' ns (some (declaredSettings cp ns owner)) = false := by
  have eq : databaseSecretOf cp' ns = databaseSecretOf cp ns := by
    rw [databaseSecretOf, same, databaseSecretOf]
  refine Bool.eq_false_iff.2 fun changed => ?_
  obtain ⟨key, -, ne⟩ := (isDatabaseChanged_iff cp' ns _ owner).1 changed
  rw [eq] at ne
  exact ne rfl

/-- Declared settings stay as they are while the same database is declared. -/
theorem settingsAfter_declared {rounds : List (Round settings)} {owner : OwnerReference}
    (home : ∀ r ∈ rounds, r.cp.metadata.namespaceName = some ns)
    (same : ∀ r ∈ rounds, r.cp.spec.database = cp.spec.database) :
    ∃ owner', settingsAfter ns (some (declaredSettings cp ns owner)) rounds =
      some (declaredSettings cp ns owner') := by
  induction rounds generalizing owner with
  | nil => exact ⟨owner, rfl⟩
  | cons r rounds ih =>
    have rest {owner : OwnerReference} :=
      @ih owner (fun r hr => home r (by simp [hr])) (fun r hr => same r (by simp [hr]))
    have eq (owner : OwnerReference) :
        declaredSettings r.cp ns owner = declaredSettings cp ns owner := by
      rw [declaredSettings, databaseSecretOf, same r (by simp)]
      rfl
    rw [settingsAfter, history_cons, Part.run_append]
    rcases r.leaves (home r (by simp)) (some (declaredSettings cp ns owner)) with kept | ⟨owner', now⟩
    · rw [kept]
      exact rest
    · rw [now, eq]
      exact rest

/-- Rounds that declare the database whose settings are stored replace no pods. -/
theorem not_restarted_of_declared {rounds : List (Round settings)} {owner : OwnerReference}
    (home : ∀ r ∈ rounds, r.cp.metadata.namespaceName = some ns)
    (same : ∀ r ∈ rounds, r.cp.spec.database = cp.spec.database)
    (admitted : (Part.objectAt (databaseAddress ns)).Admits (some (declaredSettings cp ns owner))
      (history rounds)) : restarted ns Controller.name ∉ history rounds := by
  intro he
  obtain ⟨l, r, l', rfl, found, -⟩ := (restarted_mem_history_iff home admitted).1 he
  obtain ⟨owner', after⟩ : ∃ owner', settingsAfter ns (some (declaredSettings cp ns owner)) l =
      some (declaredSettings cp ns owner') :=
    settingsAfter_declared (fun r hr => home r (by simp [hr])) fun r hr => same r (by simp [hr])
  rw [after, isDatabaseChanged_declared (same r (by simp))] at found
  cases found

/-- Settings stay a secret. -/
theorem settingsAfter_secret {rounds : List (Round settings)} (start : Secret)
    (home : ∀ r ∈ rounds, r.cp.metadata.namespaceName = some ns) :
    ∃ s, settingsAfter ns (some (.secret start)) rounds = some (.secret s) := by
  induction rounds generalizing start with
  | nil => exact ⟨start, rfl⟩
  | cons r rounds ih =>
    rw [settingsAfter, history_cons, Part.run_append]
    rcases r.leaves (home r (by simp)) (some (.secret start)) with kept | ⟨owner, now⟩
    · rw [kept]
      exact ih start fun r hr => home r (by simp [hr])
    · rw [now]
      exact ih _ fun r hr => home r (by simp [hr])

/-- Whether an event changes a value of the settings of the database. -/
def ChangesSettings (ns : String) (old : Option Object) (e : Event) : Prop :=
  ∃ o, e.storedAt? (databaseAddress ns) = some o ∧
    ∃ key ∈ databaseKeys, valueAt? old key ≠ valueAt? (some o) key

/-- Settings are changed before pods are replaced, so in the changing round all replacements are later. -/
theorem restarted_mem_after_iff {later : List (Round settings)} {changing : Round settings}
    {t₁ t₂ : List Event} {e : Event} {o : Object} (home : changing.cp.metadata.namespaceName = some ns)
    (split : changing.trace = t₁ ++ e :: t₂) (stores : e.storedAt? (databaseAddress ns) = some o) :
    restarted ns Controller.name ∈ t₂ ++ history later ↔
      restarted ns Controller.name ∈ history (changing :: later) := by
  have early : restarted ns Controller.name ∉ t₁ := (split ▸ changing.settles home).before_change stores
  have other : restarted ns Controller.name ≠ e := by
    rintro rfl
    cases stores
  simp [split, early, other]

/-- While the database stays as the changing round declared it, pods are replaced exactly if this round
gets as far as the interface. -/
theorem restarted_iff_reaches {later : List (Round settings)} {changing : Round settings} {start : Secret}
    {t₁ t₂ : List Event} {e : Event}
    (home : ∀ r ∈ changing :: later, r.cp.metadata.namespaceName = some ns)
    (admitted : (Part.objectAt (databaseAddress ns)).Admits (some (.secret start))
      (history (changing :: later)))
    (split : changing.trace = t₁ ++ e :: t₂)
    (changes : ChangesSettings ns ((Part.objectAt (databaseAddress ns)).run (some (.secret start)) t₁) e)
    (same : ∀ r ∈ later, r.cp.spec.database = changing.cp.spec.database) :
    restarted ns Controller.name ∈ t₂ ++ history later ↔ changing.Reaches ns := by
  obtain ⟨o, stores, key, hkey, ne⟩ := changes
  have settles := changing.settles (home changing (by simp))
  -- The change is the only write of the changing round, so it is made to what the round found.
  obtain ⟨untouched, owner, rfl, now⟩ := (split ▸ settles).only_change stores
  rw [← split] at now
  rw [Part.objectAt_run_of_nil untouched] at ne
  have changed : isDatabaseChanged changing.cp ns (some (.secret start)) = true :=
    (isDatabaseChanged_iff _ _ start owner).2 ⟨key, hkey, ne⟩
  rw [history_cons, Part.admits_append, now] at admitted
  have none : restarted ns Controller.name ∉ history later :=
    not_restarted_of_declared (fun r hr => home r (by simp [hr])) same admitted.2
  rw [restarted_mem_after_iff (home changing (by simp)) split stores, history_cons, List.mem_append,
    or_iff_left none, settles.restarts_iff admitted.1]
  exact and_iff_right changed

/-- After a change of the settings pods are replaced exactly if some pass from the changing one on finds
other settings than it declares and gets as far as the interface. If the database stays as it was
declared by the changing pass, it is that pass which has to get there: what it leaves undone is never
made up for. -/
theorem restarted_after_change_iff (before : List (Round settings))
    {later : List (Round settings)} {changing : Round settings} {start : Secret}
    {t₁ t₂ : List Event} {e : Event}
    (home : ∀ r ∈ before ++ changing :: later, r.cp.metadata.namespaceName = some ns)
    (admitted : (Part.objectAt (databaseAddress ns)).Admits (some (.secret start))
      (history (before ++ changing :: later)))
    (split : changing.trace = t₁ ++ e :: t₂)
    (changes : ChangesSettings ns ((Part.objectAt (databaseAddress ns)).run
      (settingsAfter ns (some (.secret start)) before) t₁) e) :
    (restarted ns Controller.name ∈ t₂ ++ history later ↔
      ∃ l r l', changing :: later = l ++ r :: l' ∧
        isDatabaseChanged r.cp ns (settingsAfter ns (some (.secret start)) (before ++ l)) = true ∧
        r.Reaches ns) ∧
    ((∀ r ∈ later, r.cp.spec.database = changing.cp.spec.database) →
      (restarted ns Controller.name ∈ t₂ ++ history later ↔ changing.Reaches ns)) := by
  have homes : ∀ r ∈ changing :: later, r.cp.metadata.namespaceName = some ns :=
    fun r hr => home r (List.mem_append_right _ hr)
  rw [history_append, Part.admits_append] at admitted
  constructor
  · obtain ⟨o, stores, -⟩ := changes
    rw [restarted_mem_after_iff (homes changing (by simp)) split stores,
      restarted_mem_history_iff homes admitted.2]
    simp only [settingsAfter, history_append, Part.run_append]
  · intro same
    obtain ⟨found, stands⟩ := settingsAfter_secret start fun r hr => home r (List.mem_append_left _ hr)
    rw [stands] at changes
    rw [settingsAfter] at stands
    rw [stands] at admitted
    exact restarted_iff_reaches homes admitted.2 split changes same

/-- What a visit does beside its round neither stores settings of the database nor replaces pods of the
controller. -/
theorem IsElsewhere.apart {e : Event} (h : IsElsewhere settings e) (ns : String) :
    e.storedAt? (databaseAddress ns) = none ∧ e ≠ restarted ns Controller.name := by
  have within {W : Object → Prop} (h : e.call.Within W) (aside : ∀ o, W o → o.address ≠ databaseAddress ns) :
      e.storedAt? (databaseAddress ns) = none ∧ e ≠ restarted ns Controller.name := by
    refine ⟨storedAt_of_within h aside, ?_⟩
    rintro rfl
    simp [restarted, Call.Within, Call.isQuiet, Call.stores?] at h
  cases h with
  | bookkeeping bookkept =>
    refine ⟨storedAt_of_bookkeeping bookkept _, ?_⟩
    rintro rfl
    simp [restarted, Call.isBookkeeping] at bookkept
  | router cp t o plays mem =>
    refine within (plays.only (router_reach settings cp) e mem) fun o ho here => ?_
    have name := ho.1.2
    rw [here] at name
    exact absurd name (show Controller.databaseSecretName ∉ routerNames by decide)
  | portManager cp t o plays mem =>
    refine within (plays.only (portManager_reach settings cp) e mem) fun o ho here => ?_
    have name := ho.2
    rw [here] at name
    exact absurd name (show Controller.databaseSecretName ∉ portManagerNames by decide)

/-- A write of settings in a visit is one of its round. -/
theorem Pass.round_split {name : String} {t₁ t₂ : List Event} {e : Event} {o : Object}
    (p : Pass settings ns name (t₁ ++ e :: t₂)) (stores : e.storedAt? (databaseAddress ns) = some o) :
    ∃ l₁ l₂ x₁ x₂, p.round.trace = l₁ ++ e :: l₂ ∧ Interleaving l₁ x₁ t₁ ∧ Interleaving l₂ x₂ t₂ ∧
      ∀ e ∈ x₁ ++ x₂, IsElsewhere settings e := by
  obtain ⟨others, around, elsewhere⟩ := p.around_round
  obtain ⟨l₁, l, x₁, x, trace, rfl, first, rest⟩ := around.cut
  cases rest with
  | left _ rest => exact ⟨l₁, _, x₁, x, trace, first, rest, elsewhere⟩
  | right _ rest =>
    rw [((elsewhere e (by simp)).apart ns).1] at stores
    cases stores

/-- A visit replaces pods if its round finds other settings than the declared ones and gets as far as the
interface. -/
theorem Visits.restarts_iff {name : String} {o : Outcome} (visit : Visits settings ns name t o)
    (home : ∀ p : Pass settings ns name t, p.cp.metadata.namespaceName = some ns) {s : Option Object}
    (admitted : (Part.objectAt (databaseAddress ns)).Admits s t) :
    restarted ns Controller.name ∈ t ↔ ∃ p : Pass settings ns name t,
      isDatabaseChanged p.cp ns s = true ∧ p.round.Reaches ns := by
  have ofRound (p : Pass settings ns name t) : restarted ns Controller.name ∈ t ↔
      isDatabaseChanged p.cp ns s = true ∧ p.round.Reaches ns := by
    obtain ⟨others, around, elsewhere⟩ := p.around_round
    have seen := (Part.interleaving around (P := .objectAt (databaseAddress ns))
      (fun e he => Part.objectAt_ignores ((elsewhere e he).apart ns).1) s).2 admitted
    rw [around.mem_iff, or_iff_left fun he => ((elsewhere _ he).apart ns).2 rfl]
    exact (p.round.settles (home p)).restarts_iff seen
  constructor
  · intro pods
    rcases visit.idle_or_pass with idle | ⟨⟨p⟩⟩
    · exact absurd (idle _ pods).1 (by simp [restarted, Call.isBookkeeping])
    · exact ⟨p, (ofRound p).1 pods⟩
  · rintro ⟨p, replaces⟩
    exact (ofRound p).2 replaces

/-- The same of whole visits: after one that changed the settings, pods are replaced exactly if some visit
from that one on finds other settings than it declares and gets as far as the interface. -/
theorem restarted_after_change_of_visits {name : String} {before later : List (List Event)}
    {start : Secret} {t₁ t₂ : List Event} {e : Event}
    (visited : ∀ t ∈ (t₁ ++ e :: t₂) :: later, ∃ o, Visits settings ns name t o)
    (homes : ∀ t ∈ (t₁ ++ e :: t₂) :: later, ∀ p : Pass settings ns name t,
      p.cp.metadata.namespaceName = some ns)
    (admitted : (Part.objectAt (databaseAddress ns)).Admits (some (.secret start))
      (before ++ (t₁ ++ e :: t₂) :: later).flatten)
    (changes : ChangesSettings ns ((Part.objectAt (databaseAddress ns)).run (some (.secret start))
      (before.flatten ++ t₁)) e) :
    restarted ns Controller.name ∈ t₂ ++ later.flatten ↔
      ∃ l u l', (t₁ ++ e :: t₂) :: later = l ++ u :: l' ∧ ∃ p : Pass settings ns name u,
        isDatabaseChanged p.cp ns ((Part.objectAt (databaseAddress ns)).run (some (.secret start))
          (before ++ l).flatten) = true ∧ p.round.Reaches ns := by
  obtain ⟨o, stores, -⟩ := changes
  obtain ⟨outcome, visit⟩ := visited _ List.mem_cons_self
  have early : restarted ns Controller.name ∉ t₁ := by
    rcases visit.idle_or_pass with idle | ⟨⟨p⟩⟩
    · exact fun he => absurd (idle _ (List.mem_append_left _ he)).1
        (by simp [restarted, Call.isBookkeeping])
    · obtain ⟨l₁, l₂, x₁, x₂, split, first, -, elsewhere⟩ := p.round_split stores
      have settles := p.round.settles (homes _ List.mem_cons_self p)
      rw [first.mem_iff]
      rintro (inside | outside)
      · exact (split ▸ settles).before_change stores inside
      · exact ((elsewhere _ (List.mem_append_left _ outside)).apart ns).2 rfl
  have other : restarted ns Controller.name ≠ e := by
    rintro rfl
    cases stores
  have here : restarted ns Controller.name ∈ t₂ ++ later.flatten ↔
      restarted ns Controller.name ∈ ((t₁ ++ e :: t₂) :: later).flatMap id := by
    simp [early, other]
  have seen : (Part.objectAt (databaseAddress ns)).Admits
      ((Part.objectAt (databaseAddress ns)).run (some (.secret start)) before.flatten)
      (((t₁ ++ e :: t₂) :: later).flatMap id) := by
    rw [List.flatten_append, Part.admits_append] at admitted
    rw [List.flatMap_id]
    exact admitted.2
  have occurs : ∀ t ∈ (t₁ ++ e :: t₂) :: later, ∀ s, (Part.objectAt (databaseAddress ns)).Admits s (id t) →
      (restarted ns Controller.name ∈ id t ↔ ∃ p : Pass settings ns name t,
        isDatabaseChanged p.cp ns s = true ∧ p.round.Reaches ns) := by
    intro t ht s admitted
    obtain ⟨outcome, visit⟩ := visited t ht
    exact visit.restarts_iff (homes t ht) admitted
  rw [here, Part.mem_flatMap_iff occurs seen]
  simp only [List.flatten_append, Part.run_append, List.flatMap_id]

/-- While visits find the same database declared, it is the round of the changing visit that has to get
there: what it leaves undone no later visit makes up for. -/
theorem restarted_iff_of_visits {name : String} {before later : List (List Event)} {start : Secret}
    {t₁ t₂ : List Event} {e : Event} (changing : Pass settings ns name (t₁ ++ e :: t₂))
    (visited : ∀ t ∈ before ++ later, ∃ o, Visits settings ns name t o)
    (home : changing.cp.metadata.namespaceName = some ns)
    (homes : ∀ t ∈ before ++ later, ∀ p : Pass settings ns name t,
      p.cp.metadata.namespaceName = some ns)
    (admitted : (Part.objectAt (databaseAddress ns)).Admits (some (.secret start))
      (before.flatten ++ (t₁ ++ e :: t₂ ++ later.flatten)))
    (changes : ChangesSettings ns ((Part.objectAt (databaseAddress ns)).run (some (.secret start))
      (before.flatten ++ t₁)) e)
    (same : ∀ t ∈ later, ∀ p : Pass settings ns name t,
      p.cp.spec.database = changing.cp.spec.database) :
    restarted ns Controller.name ∈ t₂ ++ later.flatten ↔ changing.round.Reaches ns := by
  have ignored {others : List Event} (h : ∀ e ∈ others, IsElsewhere settings e) :
      ∀ e ∈ others, (Part.objectAt (databaseAddress ns)).Ignores e :=
    fun e he => Part.objectAt_ignores ((h e he).apart ns).1
  obtain ⟨earlierRounds, r₀, apart₀, homes₀, elsewhere₀⟩ := exists_rounds
    (P := (·.metadata.namespaceName = some ns)) (fun t ht => visited t (List.mem_append_left _ ht))
    fun t ht => homes t (List.mem_append_left _ ht)
  obtain ⟨laterRounds, r₂, apart₂, declared₂, elsewhere₂⟩ := exists_rounds (P := fun cp =>
    cp.metadata.namespaceName = some ns ∧ cp.spec.database = changing.cp.spec.database)
    (fun t ht => visited t (List.mem_append_right _ ht))
    fun t ht p => ⟨homes t (List.mem_append_right _ ht) p, same t ht p⟩
  have stores : ∃ o, e.storedAt? (databaseAddress ns) = some o := by
    obtain ⟨o, stores, -⟩ := changes
    exact ⟨o, stores⟩
  obtain ⟨o, stores⟩ := stores
  obtain ⟨l₁, l₂, x₁, x₂, split, first, rest, elsewhere⟩ := changing.round_split stores
  -- The rounds before the changing one leave the settings as the visits do.
  obtain ⟨s, stands⟩ : ∃ s, settingsAfter ns (some (.secret start)) earlierRounds = some (.secret s) :=
    settingsAfter_secret start homes₀
  rw [settingsAfter, ← (Part.interleaving apart₀ (ignored elsewhere₀) _).1] at stands
  rw [Part.run_append, stands, (Part.interleaving first
    (ignored fun e he => elsewhere e (List.mem_append_left _ he)) _).1] at changes
  rw [Part.admits_append, stands] at admitted
  have rounds : Interleaving (history (changing.round :: laterRounds)) (x₁ ++ x₂ ++ r₂)
      (t₁ ++ e :: t₂ ++ later.flatten) := by
    rw [history_cons, split]
    exact (first.append (rest.left e)).append apart₂
  have seen := (Part.interleaving rounds (ignored fun e he =>
    (List.mem_append.1 he).elim (elsewhere e) (elsewhere₂ e)) _).2 admitted.2
  have homes₂ : ∀ r ∈ changing.round :: laterRounds, r.cp.metadata.namespaceName = some ns :=
    List.forall_mem_cons.2 ⟨home, fun r hr => (declared₂ r hr).1⟩
  have outside : restarted ns Controller.name ∉ x₂ ++ r₂ := fun he =>
    (List.mem_append.1 he).elim
      (fun h => ((elsewhere _ (List.mem_append_right _ h)).apart ns).2 rfl)
      fun h => ((elsewhere₂ _ h).apart ns).2 rfl
  rw [← restarted_iff_reaches homes₂ seen split changes fun r hr => (declared₂ r hr).2,
    (rest.append apart₂).mem_iff, or_iff_left outside]

instance (ns : String) (old : Option Object) (e : Event) : Decidable (ChangesSettings ns old e) :=
  decidable_of_iff ((e.storedAt? (databaseAddress ns)).any fun o =>
      databaseKeys.any fun key => valueAt? old key ≠ valueAt? (some o) key) <| by
    simp [ChangesSettings, Option.any_eq_true]

/-- A control plane whose database has moved. -/
def movedDatabase : ControlPlane := plainControlPlane "a@b.c" ⟨"b25l"⟩ { host := "two" }

/-- The settings from before it moved. -/
def oldSettings : Secret := Controller.databaseSecret "ns" { host := "one" }

/-- A world with a controller from before, whose service cannot be created at first. -/
def deployedWorld : World where
  cluster := (({} : Cluster).insert (.secret oldSettings)).insert
    (.deployment { metadata := .named "ns" Controller.name })
  faults := [⟨"create Service ns/controller", 0, 1, .reconciliation "unavailable", .transport false "lost"⟩]

/-- The pass that changes the settings and fails after that. -/
def failedRound : Round .standard := controllerRound .standard deployedWorld movedDatabase

/-- The pass after that. -/
def retriedRound : Round .standard :=
  controllerRound .standard (deployedWorld.run (controller .standard movedDatabase)).2 movedDatabase

theorem admitted_retried (a : Address) :
    (Part.objectAt a).Admits (deployedWorld.cluster.object? a)
      (history [failedRound, retriedRound]) :=
  objectAt_roundsIn .standard deployedWorld [movedDatabase, movedDatabase] a

theorem home_retried : ∀ r ∈ [failedRound, retriedRound],
    r.cp.metadata.namespaceName = some "ns" := by
  intro r hr
  simp only [List.mem_cons, List.not_mem_nil, or_false] at hr
  rcases hr with rfl | rfl <;> rfl

theorem lt_length_failedRound : 4 < failedRound.trace.length := by decide +kernel

/-- The write of the settings in the pass that fails. -/
def settingsWrite : Event := failedRound.trace.get ⟨4, lt_length_failedRound⟩

theorem split_failedRound :
    failedRound.trace = failedRound.trace.take 4 ++ settingsWrite :: failedRound.trace.drop 5 := by
  rw [settingsWrite, List.get_eq_getElem, List.getElem_cons_drop, List.take_append_drop]

theorem changes_failedRound :
    ChangesSettings "ns" ((Part.objectAt (databaseAddress "ns")).run (some (.secret oldSettings))
      (failedRound.trace.take 4)) settingsWrite := by
  decide +kernel

theorem restarted_after_failedRound :
    (∀ r ∈ [failedRound, retriedRound], r.cp.metadata.namespaceName = some "ns") ∧
    (Part.objectAt (databaseAddress "ns")).Admits (some (.secret oldSettings))
      (history [failedRound, retriedRound]) ∧
    failedRound.trace = failedRound.trace.take 4 ++ settingsWrite :: failedRound.trace.drop 5 ∧
    ChangesSettings "ns" ((Part.objectAt (databaseAddress "ns")).run (some (.secret oldSettings))
      (failedRound.trace.take 4)) settingsWrite ∧
    (restarted "ns" Controller.name ∈ failedRound.trace.drop 5 ++ history [retriedRound] ↔
      failedRound.Reaches "ns") := by
  have admitted := admitted_retried (databaseAddress "ns")
  refine ⟨home_retried, admitted, split_failedRound, changes_failedRound, ?_⟩
  refine (restarted_after_change_iff [] home_retried admitted split_failedRound changes_failedRound).2 ?_
  intro r hr
  rw [List.mem_singleton.1 hr]
  rfl

/-- Whether an event is the replacement of the controller's pods, done. -/
def isRestart : Event → Bool
  | ⟨.restart ns name, .ok _⟩ => ns = "ns" ∧ name = Controller.name
  | _ => false

/-- A restart can be lost: the pass that changes the settings fails before it, and the next one has a
clean outcome without it. -/
theorem restart_lost : ¬ ∀ (start : Secret) (deployment : Object) (changing later : Round .standard)
    (t₁ t₂ : List Event) (e : Event),
    (∀ r ∈ [changing, later], r.cp.metadata.namespaceName = some "ns") →
    (Part.objectAt (databaseAddress "ns")).Admits (some (.secret start)) (history [changing, later]) →
    (Part.objectAt ⟨.deployment, "ns", Controller.name⟩).Admits (some deployment)
      (history [changing, later]) →
    changing.trace = t₁ ++ e :: t₂ →
    ChangesSettings "ns" ((Part.objectAt (databaseAddress "ns")).run (some (.secret start)) t₁) e →
    later.outcome.isClean → restarted "ns" Controller.name ∈ t₂ ++ later.trace := by
  intro assured
  have clean : retriedRound.outcome.isClean := by decide +kernel
  have restart := assured oldSettings _ failedRound retriedRound _ _ _ home_retried
    (admitted_retried (databaseAddress "ns")) (admitted_retried ⟨.deployment, "ns", Controller.name⟩)
    split_failedRound changes_failedRound clean
  have none : (failedRound.trace.drop 5 ++ retriedRound.trace).any isRestart = false := by
    decide +kernel
  rw [List.any_eq_true.2 ⟨_, restart, rfl⟩] at none
  cases none

end EdgePlane.Reconcile
