import EdgePlane.Proofs.Conversation
import EdgePlane.Proofs.DatabaseRestart
import EdgePlane.Proofs.Keeping
import EdgePlane.Proofs.Numerals

/-!
# Edits of the database

A pass compares the settings that it finds with those it declares, value by value. Settings say which
database they were written for, so that the pass sees whether it is another one now. What a secret says
does not depend on how the store keeps it, and a pass without an edit leaves the controller's pods alone.
-/

namespace EdgePlane

open Kubernetes Simulation Text

namespace Controller

open ControlPlane (Database)

/-- The settings of a database, under their keys. -/
def settingsOf (database : Database) : List (String × String) :=
  [("provider", database.provider), ("name", database.databaseName), ("user", database.user),
    ("password", database.password), ("host", database.host), ("port", databasePort database)]

theorem entries_databaseSecret (ns : String) (database : Database) :
    ((databaseSecret ns database).stringData.map (·.entries)).getD [] = settingsOf database := rfl

/-- Ports have different texts, and none of them is empty but that of no port. -/
theorem port_of_databasePort {d d' : Database} (same : databasePort d = databasePort d') :
    d.port = d'.port := by
  unfold databasePort at same
  split at same
  · rename_i none
    split at same
    · rename_i none'
      rw [none, none']
    · exact absurd same.symm (decimalInt_ne_empty _)
  · split at same
    · exact absurd same (decimalInt_ne_empty _)
    · exact Int32.toInt_inj.1 (decimalInt_injective same)

/-- Whether a secret says the settings of a database. -/
def Tells (database : Database) (s : Secret) : Prop :=
  ∀ e ∈ settingsOf database, s.value? e.1 = some (.text e.2)

/-- A secret tells the settings of one database only. -/
theorem Tells.eq {d d' : Database} {s : Secret} (h : Tells d s) (h' : Tells d' s) : d = d' := by
  simp only [Tells, settingsOf, List.forall_mem_cons] at h h'
  obtain ⟨provider, name, user, password, host, port, -⟩ := h
  rw [provider, name, user, password, host, port] at h'
  simp only [Option.some.injEq, SecretValue.text.injEq] at h'
  obtain ⟨sameProvider, sameName, sameUser, samePassword, sameHost, samePort, -⟩ := h'
  have samePort := port_of_databasePort samePort
  cases d
  cases d'
  simp_all

/-- Storing the settings of a database changes a secret unless it tells them already. -/
theorem isChangedBy_eq_false_iff {s : Secret} {ns : String} {d : Database} :
    s.isChangedBy (databaseSecret ns d) = false ↔ Tells d s := by
  rw [Secret.isChangedBy, entries_databaseSecret, List.any_eq_false]
  simp only [decide_eq_true_eq, ne_eq, Decidable.not_not]
  rfl

/-- A store that is given the settings of a database tells them, however it keeps texts. -/
theorem tells_keep (k : Keeping) (old : Option Object) (ns : String) (d : Database) (owner : OwnerReference) :
    ∃ s, k.keep old ((Object.secret (databaseSecret ns d)).ownedBy owner) = .secret s ∧ Tells d s := by
  obtain ⟨s, kept, told⟩ := k.value?_keep old (s := { databaseSecret ns d with
    metadata := { (databaseSecret ns d).metadata with ownerReferences := some [owner] } }) rfl
  refine ⟨s, kept, fun e he => told e.1 e.2 ?_⟩
  simp only [settingsOf, List.mem_cons, List.not_mem_nil, or_false] at he
  rcases he with rfl | rfl | rfl | rfl | rfl | rfl <;> rfl

end Controller

/-- The calls that replace the pods of a deployment. -/
def Call.isRestartOf (ns name : String) : Call → Bool
  | .restart ns' name' => ns' = ns ∧ name' = name
  | _ => false

theorem Call.isRestartOf_iff {ns name : String} {c : Call} :
    c.isRestartOf ns name = true ↔ c = .restart ns name := by
  cases c <;> simp [isRestartOf]

namespace Reconcile

variable {settings : Setup} {ns : String} {k : Keeping}

/-- Whether a round stored settings of the database. -/
def Round.writes (ns : String) (r : Round settings) : Bool :=
  r.trace.any fun e => (e.storedAt? (databaseAddress ns)).isSome

/-- The last of some rounds that stored settings of the database. -/
def lastWriter? (ns : String) (rounds : List (Round settings)) : Option (Round settings) :=
  rounds.reverse.find? (·.writes ns)

/-- Whether the controller is deployed after some rounds in a namespace that was empty. -/
def deployed (k : Keeping) (ns : String) (rounds : List (Round settings)) : Bool :=
  ((Part.keptAt k (controllerAddress ns)).run none (history rounds)).isSome

/-- A round that stores settings leaves those that it declares, and another round leaves what it found. -/
theorem Round.kept (r : Round settings) (home : r.cp.metadata.namespaceName = some ns) (k : Keeping)
    (old : Option Object) :
    (r.writes ns = false ∧ (Part.keptAt k (databaseAddress ns)).run old r.trace = old) ∨
      (r.writes ns = true ∧ ∃ s, (Part.keptAt k (databaseAddress ns)).run old r.trace =
        some (.secret s) ∧ Controller.Tells r.cp.spec.database s) := by
  rw [Part.keptAt_run]
  rcases (r.settles home).storedAt with none | ⟨owner, once⟩
  · refine .inl ⟨?_, by rw [none]; rfl⟩
    simpa [writes, List.any_eq_false] using List.filterMap_eq_nil_iff.1 none
  · obtain ⟨e, he, stored⟩ := List.mem_filterMap.1
      (once ▸ List.mem_singleton_self (declaredSettings r.cp ns owner))
    obtain ⟨s, kept, tells⟩ := Controller.tells_keep k old ns r.cp.spec.database owner
    refine .inr ⟨List.any_eq_true.2 ⟨e, he, by rw [stored]; rfl⟩, s, ?_, tells⟩
    rw [once]
    exact congrArg some kept

/-- Over a run of rounds, the settings that are stored are those of the last round that stored some. -/
theorem settings_of_lastWriter (k : Keeping) {rounds : List (Round settings)}
    (home : ∀ r ∈ rounds, r.cp.metadata.namespaceName = some ns) :
    match lastWriter? ns rounds with
    | none => (Part.keptAt k (databaseAddress ns)).run none (history rounds) = none
    | some w => ∃ s, (Part.keptAt k (databaseAddress ns)).run none (history rounds) =
        some (.secret s) ∧ Controller.Tells w.cp.spec.database s := by
  induction rounds using List.reverseRecOn with
  | nil => rfl
  | append_singleton rounds r ih =>
    specialize ih fun r hr => home r (List.mem_append_left _ hr)
    rw [history_append, history_cons, history_nil, List.append_nil, Part.run_append, lastWriter?,
      List.reverse_append, List.reverse_singleton, List.singleton_append, List.find?_cons]
    rcases r.kept (home r (by simp)) k ((Part.keptAt k (databaseAddress ns)).run none (history rounds)) with
      ⟨silent, same⟩ | ⟨writes, tells⟩
    · rw [silent, same]
      exact ih
    · rw [writes]
      exact tells

/-- Settings that are found count as changed if their last writer declared another database. -/
theorem isDatabaseChanged_of_lastWriter {cp : ControlPlane} {rounds : List (Round settings)}
    (home : ∀ r ∈ rounds, r.cp.metadata.namespaceName = some ns) :
    isDatabaseChanged cp ns ((Part.keptAt k (databaseAddress ns)).run none (history rounds)) =
      (lastWriter? ns rounds).any (·.cp.spec.database ≠ cp.spec.database) := by
  have found := settings_of_lastWriter k home
  split at found
  next last =>
    rw [found, last]
    rfl
  next w last =>
    obtain ⟨s, found, tells⟩ := found
    rw [found, last]
    change s.isChangedBy (databaseSecretOf cp ns) = decide (w.cp.spec.database ≠ cp.spec.database)
    rw [Bool.eq_iff_iff, ← not_iff_not, Bool.not_eq_true, databaseSecretOf,
      Controller.isChangedBy_eq_false_iff, decide_eq_true_eq, Decidable.not_not]
    exact ⟨tells.eq, fun same => same ▸ tells⟩

theorem filter_restarts_eq_nil {t : List Event}
    (h : ∀ e ∈ t, e.call ≠ .restart ns Controller.name) :
    t.filter (·.call.isRestartOf ns Controller.name) = [] :=
  List.filter_eq_nil_iff.2 fun e he restart => h e he (Call.isRestartOf_iff.1 restart)

/-- A bootstrap replaces no pods of the controller's. -/
theorem filter_restarts_bootstrapController {target : Target} {cp : ControlPlane} {t : List Event}
    {r : Except Failure Outcome} (h : (bootstrapController settings target cp).run.Plays t r) :
    t.filter (·.call.isRestartOf target.namespaceName Controller.name) = [] := by
  obtain ⟨answer, u, rfl, bootstraps⟩ := plays_bootstrapController h
  refine filter_restarts_eq_nil fun e he => ?_
  rcases List.mem_cons.1 he with rfl | he
  · simp
  · exact (bootstraps.apart e he).2

/-- A round without a failure brings all objects about. After that it replaces the controller's pods once
if the controller existed and its settings changed, and not at all otherwise. -/
theorem Round.unfailing (r : Round settings) (home : r.cp.metadata.namespaceName = some ns)
    (unfailing : r.outcome.failure = none) :
    ∃ target t₀ t₁ t₂ existed changed, target.namespaceName = ns ∧ r.trace = t₀ ++ (t₁ ++ t₂) ∧
      (∀ e ∈ t₀, ∃ a, e.call = .get a) ∧
      (syncController settings target r.cp).Yields t₁ (existed, changed) ∧
      t₂.filter (·.call.isRestartOf ns Controller.name) =
        if existed && changed then [restarted ns Controller.name] else [] := by
  obtain ⟨cp, trace, outcome, plays⟩ := r
  dsimp only at home unfailing ⊢
  rcases plays_settle.1 plays with plays | ⟨e, -, rfl⟩
  case inr => cases unfailing
  obtain ⟨-, _, ⟨⟩⟩ | ⟨target, htarget, t₀, t, rfl, lookups, ⟨-, _, ⟨⟩⟩ | drive⟩ :=
    plays_attemptController plays
  obtain rfl : ns = target.namespaceName :=
    Option.some.inj (home.symm.trans (Target.namespaceName_of htarget).1)
  obtain ⟨t₁, ⟨existed, changed⟩, t₂, rfl, synced, rest⟩ := Attempt.yields_bind.1 drive
  refine ⟨target, t₀, t₁, t₂, existed, changed, rfl, rfl, lookups, synced, ?_⟩
  match existed, changed with
  | false, _ =>
    obtain ⟨rfl, -⟩ := Attempt.yields_pure.1 rest
    rfl
  | true, false => exact filter_restarts_bootstrapController rest
  | true, true =>
    obtain ⟨t₃, _, t₄, rfl, restart, last⟩ := Attempt.yields_bind.1 rest
    obtain rfl := Attempt.yields_restart.1 restart
    rw [List.filter_append, filter_restarts_bootstrapController last]
    simp [Call.isRestartOf, restarted]

/-- A round that looks an object up before it stores it finds what the rounds before left. -/
theorem found_of_lookup {a : Address} {before : List (Round settings)} {r : Round settings}
    {t u : List Event} {found : Option Object}
    (admitted : (Part.keptAt k a).Admits none (history (before ++ [r])))
    (trace : r.trace = t ++ ⟨.get a, .ok found⟩ :: u) (unstored : ∀ e ∈ t, e.storedAt? a = none) :
    found = (Part.keptAt k a).run none (history before) := by
  rw [history_append, history_cons, history_nil, List.append_nil, Part.admits_append, trace] at admitted
  exact Part.found_of_admits admitted.2 unstored

/-- Pods of the controller are replaced as the database is edited. A round in a run from an empty
namespace that has no failure replaces them if the controller was deployed before and the last round that
stored settings of a database declared another one; it does so once. It makes no difference to this
whether secrets are kept as they are written or as bytes. -/
theorem restarts_eq_of_edits (k : Keeping) (before : List (Round settings)) (r : Round settings)
    (home : ∀ r' ∈ before ++ [r], r'.cp.metadata.namespaceName = some ns)
    (secret : (Part.keptAt k (databaseAddress ns)).Admits none (history (before ++ [r])))
    (deployment : (Part.keptAt k (controllerAddress ns)).Admits none (history (before ++ [r])))
    (unfailing : r.outcome.failure = none) :
    r.trace.filter (·.call.isRestartOf ns Controller.name) =
      if deployed k ns before && (lastWriter? ns before).any (·.cp.spec.database ≠ r.cp.spec.database)
      then [restarted ns Controller.name] else [] := by
  obtain ⟨target, t₀, t₁, t₂, existed, changed, rfl, trace, lookups, synced, restarts⟩ :=
    r.unfailing (home r (by simp)) unfailing
  have looked {a : Address} {u : List Event} (unstored : ∀ e ∈ u, e.storedAt? a = none) :
      ∀ e ∈ t₀ ++ u, e.storedAt? a = none := fun e he =>
    (List.mem_append.1 he).elim (fun h => (unstored_of_lookup (lookups e h)).1) (unstored e)
  have there : existed = deployed k target.namespaceName before := by
    obtain ⟨u₁, found, u₂, rfl, there, unstored⟩ := lookup_of_syncController synced
    have split : r.trace = (t₀ ++ u₁) ++ ⟨.get (controllerAddress target.namespaceName), .ok found⟩ ::
        (u₂ ++ t₂) := by simp [trace]
    rw [deployed, ← found_of_lookup deployment split (looked unstored), there]
  have edited : changed = (lastWriter? target.namespaceName before).any
      (·.cp.spec.database ≠ r.cp.spec.database) := by
    rcases plays_syncController synced with ⟨e, ⟨⟩, -⟩ |
      ⟨u₁, found, u₂, result, u₃, rfl, unstored, -, -, changed_eq⟩
    have split : r.trace = (t₀ ++ u₁) ++ ⟨.get (databaseAddress target.namespaceName), .ok found⟩ ::
        (u₂ ++ u₃ ++ t₂) := by simp [trace]
    rw [changed_eq _ _ rfl, found_of_lookup secret split (looked unstored),
      isDatabaseChanged_of_lastWriter fun r' h => home r' (List.mem_append_left _ h)]
  have early : (t₀ ++ t₁).filter (·.call.isRestartOf target.namespaceName Controller.name) = [] := by
    refine filter_restarts_eq_nil fun e he heq => ?_
    rcases List.mem_append.1 he with he | he
    · obtain ⟨a, ha⟩ := lookups e he
      cases heq.symm.trans ha
    · have objects := Program.Plays.only synced (syncController_objects settings target r.cp) e he
      rw [heq] at objects
      cases objects
  rw [trace, ← List.append_assoc, List.filter_append, early, restarts, there, edited, List.nil_append]

/-- A control plane from before its database moves. -/
def unmovedDatabase : ControlPlane := plainControlPlane "a@b.c" ⟨"b25l"⟩ { host := "one" }

/-- A namespace that was empty, after some passes. Secrets are kept as bytes. -/
def worldOfBytes (cps : List ControlPlane) : World :=
  cps.foldl (fun w cp => ((controller .standard cp).run Keeping.asBytes.answer w).2) {}

/-- The first pass there. -/
def deployingRound : Round .standard :=
  keptRound .standard .asBytes (worldOfBytes []) unmovedDatabase

/-- A pass that finds the settings that it declares. -/
def repeatingRound : Round .standard :=
  keptRound .standard .asBytes (worldOfBytes [unmovedDatabase]) unmovedDatabase

/-- The pass after the database has moved. -/
def movingRound : Round .standard :=
  keptRound .standard .asBytes (worldOfBytes [unmovedDatabase, unmovedDatabase]) movedDatabase

theorem admitted_editing (a : Address) :
    (Part.keptAt .asBytes a).Admits none (history [deployingRound, repeatingRound]) ∧
      (Part.keptAt .asBytes a).Admits none (history [deployingRound, repeatingRound, movingRound]) :=
  ⟨keptAt_keptRounds .standard .asBytes a {} [unmovedDatabase, unmovedDatabase],
    keptAt_keptRounds .standard .asBytes a {} [unmovedDatabase, unmovedDatabase, movedDatabase]⟩

/-- The pass that finds its own settings replaces no pods, and the pass after the database has moved
replaces them once. -/
theorem restarts_of_editing :
    (∀ r ∈ [deployingRound, repeatingRound, movingRound], r.cp.metadata.namespaceName = some "ns") ∧
    repeatingRound.outcome.failure = none ∧ movingRound.outcome.failure = none ∧
    repeatingRound.trace.filter (·.call.isRestartOf "ns" Controller.name) = [] ∧
    movingRound.trace.filter (·.call.isRestartOf "ns" Controller.name) =
      [restarted "ns" Controller.name] := by
  have home : ∀ r ∈ [deployingRound, repeatingRound, movingRound],
      r.cp.metadata.namespaceName = some "ns" := by
    simp only [List.mem_cons, List.not_mem_nil, or_false]
    rintro r (rfl | rfl | rfl) <;> rfl
  have repeats : repeatingRound.outcome.failure = none := by decide +kernel
  have moves : movingRound.outcome.failure = none := by decide +kernel
  refine ⟨home, repeats, moves, ?_, ?_⟩
  · refine (restarts_eq_of_edits .asBytes [deployingRound] repeatingRound (fun r hr => home r ?_)
      (admitted_editing _).1 (admitted_editing _).1 repeats).trans (if_neg ?_)
    · exact List.mem_of_mem_take (i := 2) hr
    · decide +kernel
  · refine (restarts_eq_of_edits .asBytes [deployingRound, repeatingRound] movingRound home
      (admitted_editing _).2 (admitted_editing _).2 moves).trans (if_pos ?_)
    decide +kernel

end Reconcile

end EdgePlane
