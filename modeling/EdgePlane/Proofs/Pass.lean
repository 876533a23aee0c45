import EdgePlane.Proofs.Reach

/-!
# The parts of a pass

The trace of a pass over a control plane is bookkeeping, then an interleaving of what the parts of the
router, the controller and the port manager do, then bookkeeping again. The phase of being ready is
entered only after all three parts had a clean outcome.

A pass lets its parts take turns where one of them sleeps. What holds of it for that reason alone is
rarely of interest, so a visit leaves open which part has its turn at which call.
-/

namespace EdgePlane

open Kubernetes
open ControlPlane (Phase Condition)

theorem plays_settle {x : Attempt Outcome} {t : List Event} {o : Outcome} :
    (settle x).Plays t o ↔ x.Yields t o ∨ ∃ e, x.Fails t e ∧ o = .failed e := by
  unfold settle
  rw [Program.plays_bind]
  constructor
  · rintro ⟨t₁, r, t₂, rfl, h₁, h₂⟩
    cases r with
    | ok a =>
      obtain ⟨rfl, rfl⟩ := Program.plays_pure.1 h₂
      exact .inl (by rwa [List.append_nil])
    | error e =>
      obtain ⟨rfl, rfl⟩ := Program.plays_pure.1 h₂
      exact .inr ⟨e, by rwa [List.append_nil], rfl⟩
  · rintro (h | ⟨e, h, rfl⟩)
    · exact ⟨t, .ok o, [], by simp, h, .pure _⟩
    · exact ⟨t, .error e, [], by simp, h, .pure _⟩

/-- A clean outcome is not that of a failed attempt. -/
theorem yields_of_clean {x : Attempt Outcome} {t : List Event} {o : Outcome}
    (h : (settle x).Plays t o) (clean : o.isClean) : x.Yields t o := by
  rcases plays_settle.1 h with h | ⟨e, -, rfl⟩
  · exact h
  · simp [Outcome.isClean, Outcome.failed, Outcome.proceed] at clean

namespace Outcome

theorem isClean_merge (a b : Outcome) : (a.merge b).isClean = (a.isClean && b.isClean) := by
  obtain ⟨fa, ta, ra, -⟩ := a
  obtain ⟨fb, tb, rb, -⟩ := b
  cases fa <;> cases fb <;> cases ta <;> cases tb <;> cases ra <;> cases rb <;> rfl

/-- Outcomes are clean together when each of them is. -/
theorem isClean_mergeAll (outcomes : List Outcome) :
    (mergeAll outcomes).isClean = outcomes.all isClean := by
  have fold (start : Outcome) :
      (outcomes.foldl merge start).isClean = (start.isClean && outcomes.all isClean) := by
    induction outcomes generalizing start with
    | nil => simp
    | cons o rest ih => rw [List.foldl_cons, ih, isClean_merge, List.all_cons, Bool.and_assoc]
  exact fold proceed

end Outcome

/-- Whether an event makes the phase of being ready that of a control plane. -/
def Event.entersReady : Event → Bool
  | ⟨.record _ conditions, .ok _⟩ => conditions.any (·.type = Phase.ready.conditionType)
  | _ => false

namespace Reconcile

/-- The traces of the three parts that make up a trace, with their outcomes. -/
structure Parts (settings : Setup) (cp : ControlPlane) (t : List Event) where
  router : List Event
  controller : List Event
  portManager : List Event
  others : List Event
  routerOutcome : Outcome
  controllerOutcome : Outcome
  portManagerOutcome : Outcome
  apart : Interleaving router others t
  othersApart : Interleaving controller portManager others
  playsRouter : (Reconcile.router settings cp).Plays router routerOutcome
  playsController : (Reconcile.controller settings cp).Plays controller controllerOutcome
  playsPortManager : (Reconcile.portManager settings cp).Plays portManager portManagerOutcome

variable {settings : Setup} {cp : ControlPlane} {t : List Event} {o : Outcome}

/-- Whether all parts had a clean outcome. -/
def Parts.isClean (p : Parts settings cp t) : Bool :=
  p.routerOutcome.isClean && (p.controllerOutcome.isClean && p.portManagerOutcome.isClean)

/-- The outcomes of all parts as one. -/
def Parts.outcome (p : Parts settings cp t) : Outcome :=
  .mergeAll [p.routerOutcome, p.controllerOutcome, p.portManagerOutcome]

theorem Parts.isClean_outcome (p : Parts settings cp t) : p.outcome.isClean = p.isClean := by
  simp [outcome, Outcome.isClean_mergeAll, Parts.isClean]

theorem plays_converge (h : (converge settings cp).Plays t o) :
    ∃ p : Parts settings cp t, p.outcome = o := by
  obtain ⟨t₁, outcomes, t₂, rfl, joined, merged⟩ := Program.plays_bind.1 h
  obtain ⟨rfl, rfl⟩ := Program.plays_pure.1 merged
  obtain ⟨r, c, m, u, ro, co, mo, apart, othersApart, rfl, hr, hc, hm⟩ :=
    Program.plays_joinAll joined
  rw [List.append_nil]
  exact ⟨⟨r, c, m, u, ro, co, mo, apart, othersApart, hr, hc, hm⟩, rfl⟩

/-- Entering a phase is bookkeeping. -/
theorem plays_enter {phase : Phase} {r : Except Failure Unit}
    (h : (enter cp phase).run.Plays t r) :
    ∃ time, t = [⟨.now, time⟩, ⟨.record cp [Condition.active phase.conditionType time], r⟩] := by
  cases r with
  | ok u =>
    obtain ⟨t₁, time, t₂, rfl, h₁, h₂⟩ := Attempt.yields_bind.1 h
    rw [Attempt.yields_ofProgram, Program.plays_perform rfl] at h₁
    have h₂ := (Program.plays_perform (c := .record cp _) rfl).1 h₂
    exact ⟨time, by rw [h₁, h₂]; rfl⟩
  | error e =>
    rcases Attempt.fails_bind.1 h with h | ⟨t₁, time, t₂, rfl, h₁, h₂⟩
    · exact (Attempt.fails_ofProgram.1 h).elim
    rw [Attempt.yields_ofProgram, Program.plays_perform rfl] at h₁
    have h₂ := (Program.plays_perform (c := .record cp _) rfl).1 h₂
    exact ⟨time, by rw [h₁, h₂]; rfl⟩

/-- How a pass finds a control plane deploying: it was already, or the phase is entered first. -/
inductive Deploys (cp : ControlPlane) : List Event → Prop
  | already (phase : cp.phase = some .deploying) : Deploys cp []
  | anew (phase : cp.phase = none) (time : Instant) :
    Deploys cp [⟨.now, time⟩,
      ⟨.record cp [Condition.active Phase.deploying.conditionType time], .ok ()⟩]

theorem Deploys.not_ready {before : List Event} (h : Deploys cp before) : cp.phase ≠ some .ready := by
  cases h with
  | already phase => simp [phase]
  | anew phase => simp [phase]

/-- The outcome of a pass that was to enter the phase of being ready, by the answer to that. -/
def readyOutcome : Except Failure Unit → Outcome
  | .ok _ => .requeueNow
  | .error e => .failed e

/-- How a visit of the control plane of a name goes: its trace and its outcome. The parts may take turns at
any call. -/
inductive Visits (settings : Setup) (ns name : String) : List Event → Outcome → Prop
  | unreadable (e : Failure) : Visits settings ns name [⟨.fetch ns name, .error e⟩] (.failed e)
  | gone : Visits settings ns name [⟨.fetch ns name, .ok none⟩, ⟨.forget (ns ++ "/" ++ name), ()⟩] .stop
  | idle (cp : ControlPlane) (phase : cp.phase = some .ready) :
    Visits settings ns name [⟨.fetch ns name, .ok (some cp)⟩] .proceed
  /-- The phase of deploying could not be entered. -/
  | refused (cp : ControlPlane) (phase : cp.phase = none) (time : Instant) (e : Failure) :
    Visits settings ns name [⟨.fetch ns name, .ok (some cp)⟩, ⟨.now, time⟩,
      ⟨.record cp [Condition.active Phase.deploying.conditionType time], .error e⟩] (.failed e)
  | pending (cp : ControlPlane) (before m : List Event) (entry : Deploys cp before)
    (parts : Parts settings cp m) (unclean : parts.outcome.isClean = false) :
    Visits settings ns name (⟨.fetch ns name, .ok (some cp)⟩ :: (before ++ m)) parts.outcome
  | converged (cp : ControlPlane) (before m : List Event) (entry : Deploys cp before)
    (parts : Parts settings cp m) (clean : parts.outcome.isClean) (time : Instant)
    (r : Except Failure Unit) :
    Visits settings ns name (⟨.fetch ns name, .ok (some cp)⟩ :: (before ++ (m ++ [⟨.now, time⟩,
      ⟨.record cp [Condition.active Phase.ready.conditionType time], r⟩]))) (readyOutcome r)

theorem plays_deploy (h : (deploy settings cp).Plays t o) :
    ((converge settings cp).Plays t o ∧ o.isClean = false) ∨
      ∃ m clean time r, t = m ++ [⟨.now, time⟩,
          ⟨.record cp [Condition.active Phase.ready.conditionType time], r⟩] ∧
        (converge settings cp).Plays m clean ∧ clean.isClean ∧ o = readyOutcome r := by
  obtain ⟨m, outcome, post, rfl, hconverge, rest⟩ := Program.plays_bind.1 h
  split at rest
  · rename_i clean
    refine .inr ⟨m, outcome, ?_⟩
    rcases plays_settle.1 rest with entered | ⟨e, failed, rfl⟩
    · obtain ⟨u, written, rfl⟩ := Attempt.yields_bind_pure.1 entered
      obtain ⟨time, rfl⟩ := plays_enter written
      exact ⟨time, .ok u, rfl, hconverge, clean, rfl⟩
    · obtain ⟨time, rfl⟩ := plays_enter (Attempt.fails_bind_pure.1 failed)
      exact ⟨time, .error e, rfl, hconverge, clean, rfl⟩
  · rename_i unclean
    obtain ⟨rfl, rfl⟩ := Program.plays_pure.1 rest
    rw [List.append_nil]
    exact .inl ⟨hconverge, Bool.eq_false_iff.2 unclean⟩

/-- A pass is a visit, in which the parts take turns where they sleep. -/
theorem visits_of_plays {ns name : String} (plays : (dispatch settings ns name).Plays t o) :
    Visits settings ns name t o := by
  have deployed {cp : ControlPlane} {before u : List Event} (entry : Deploys cp before)
      (h : (deploy settings cp).Plays u o) :
      Visits settings ns name (⟨.fetch ns name, .ok (some cp)⟩ :: (before ++ u)) o := by
    rcases plays_deploy h with ⟨converges, unclean⟩ | ⟨m, o', time, r, rfl, converges, clean, rfl⟩
    · obtain ⟨p, rfl⟩ := plays_converge converges
      exact .pending cp before u entry p unclean
    · obtain ⟨p, rfl⟩ := plays_converge converges
      exact .converged cp before m entry p clean time r
  obtain ⟨t₁, found, t₂, rfl, fetched, rest⟩ := Program.plays_bind.1 plays
  obtain rfl := (Program.plays_perform (c := .fetch ns name) rfl).1 fetched
  match found with
  | .error e =>
    obtain ⟨rfl, rfl⟩ := Program.plays_pure.1 rest
    exact .unreadable e
  | .ok none =>
    obtain ⟨t₁, u, t₂, rfl, forgotten, stopped⟩ := Program.plays_bind.1 rest
    obtain rfl := (Program.plays_perform (c := .forget _) rfl).1 forgotten
    obtain ⟨rfl, rfl⟩ := Program.plays_pure.1 stopped
    exact .gone
  | .ok (some cp) =>
    change (advance settings cp).Plays t₂ o at rest
    unfold advance at rest
    split at rest
    · rename_i phase
      obtain ⟨rfl, rfl⟩ := Program.plays_pure.1 rest
      exact .idle cp phase
    · rename_i phase
      exact deployed (.already phase) rest
    · rename_i phase
      -- The phase of deploying is entered first; the components are next if that succeeds.
      rcases plays_settle.1 rest with yields | ⟨e, failed, rfl⟩
      · obtain ⟨u₁, u, u₂, rfl, entered, goesOn⟩ := Attempt.yields_bind.1 yields
        obtain ⟨time, rfl⟩ := plays_enter entered
        exact deployed (u := u₂) (.anew phase time) (Attempt.yields_ofProgram.1 goesOn)
      · rcases Attempt.fails_bind.1 failed with h | ⟨u₁, u, u₂, rfl, -, h⟩
        · obtain ⟨time, rfl⟩ := plays_enter h
          exact .refused cp phase time e
        · exact (Attempt.fails_ofProgram.1 h).elim

/-- The trace of a visit of a control plane that is being deployed. -/
structure Pass (settings : Setup) (ns name : String) (t : List Event) where
  cp : ControlPlane
  before : List Event
  middle : List Event
  after : List Event
  eq : t = ⟨.fetch ns name, .ok (some cp)⟩ :: (before ++ middle ++ after)
  bookkept : ∀ e ∈ before ++ after, e.call.isBookkeeping
  notReady : ∀ e ∈ before, e.entersReady = false
  parts : Parts settings cp middle
  clean : after ≠ [] → parts.isClean

/-- What enters the phase of deploying is bookkeeping that does not enter the phase of being ready. -/
theorem Deploys.bookkept {before : List Event} (h : Deploys cp before) :
    ∀ e ∈ before, e.call.isBookkeeping ∧ e.entersReady = false := by
  cases h <;> simp [Call.isBookkeeping, Event.entersReady, Condition.active, Phase.conditionType]

/-- A visit is bookkeeping that does not enter the phase of being ready, or brings the components
about. -/
theorem Visits.idle_or_pass {ns name : String} (h : Visits settings ns name t o) :
    (∀ e ∈ t, e.call.isBookkeeping ∧ e.entersReady = false) ∨
      Nonempty (Pass settings ns name t) := by
  cases h with
  | unreadable => exact .inl (by simp [Call.isBookkeeping, Event.entersReady])
  | gone => exact .inl (by simp [Call.isBookkeeping, Event.entersReady])
  | idle => exact .inl (by simp [Call.isBookkeeping, Event.entersReady])
  | refused => exact .inl (by simp [Call.isBookkeeping, Event.entersReady])
  | pending cp before m entry p unclean =>
    exact .inr ⟨⟨cp, before, m, [], by simp, by simpa using fun e he => (entry.bookkept e he).1,
      fun e he => (entry.bookkept e he).2, p, fun h => absurd rfl h⟩⟩
  | converged cp before m entry p clean time r =>
    refine .inr ⟨⟨cp, before, m, _, by rw [List.append_assoc], fun e he => ?_,
      fun e he => (entry.bookkept e he).2, p, fun _ => p.isClean_outcome ▸ clean⟩⟩
    simp only [List.mem_append, List.mem_cons, List.not_mem_nil, or_false] at he
    rcases he with he | rfl | rfl
    · exact (entry.bookkept e he).1
    · rfl
    · rfl

/-- The parts themselves do no bookkeeping. -/
theorem Parts.not_bookkeeping (p : Parts settings cp t) : ∀ e ∈ t, e.call.isBookkeeping = false := by
  have within {W : Object → Prop} {c : Call} (h : c.Within W) : c.isBookkeeping = false := by
    rcases h with h | ⟨o, h, -⟩
    · cases c <;> first | rfl | simp [Call.isQuiet] at h
    · cases c <;> first | rfl | simp [Call.stores?] at h
  intro e he
  rcases p.apart.mem_iff.1 he with he | he
  · exact within (p.playsRouter.only (router_reach settings cp) e he)
  rcases p.othersApart.mem_iff.1 he with he | he
  · rcases p.playsController.only (controller_reach settings cp) e he with h | ⟨ns, -, h | ⟨name, h⟩⟩
    · exact within h
    · obtain ⟨c, r⟩ := e
      cases c <;> first | rfl | simp [Call.isAccountAt] at h
    · rw [h]
      rfl
  · exact within (p.playsPortManager.only (portManager_reach settings cp) e he)

namespace Parts

variable (p : Parts settings cp t) {a : Address}

/-- What ignores the other parts sees of a pass only the controller's. -/
theorem seen_by_controller {σ : Type} {P : Part σ} (router : ∀ e ∈ p.router, P.Ignores e)
    (portManager : ∀ e ∈ p.portManager, P.Ignores e) (s : σ) :
    P.run s t = P.run s p.controller ∧ (P.Admits s t → P.Admits s p.controller) := by
  have first := Part.interleaving p.apart.swap router s
  have second := Part.interleaving p.othersApart portManager s
  exact ⟨first.1.trans second.1, fun admitted => second.2 (first.2 admitted)⟩

/-- What ignores the other parts sees of a pass only the port manager's. -/
theorem seen_by_portManager {σ : Type} {P : Part σ} (router : ∀ e ∈ p.router, P.Ignores e)
    (controller : ∀ e ∈ p.controller, P.Ignores e) (s : σ) :
    P.run s t = P.run s p.portManager ∧ (P.Admits s t → P.Admits s p.portManager) := by
  have first := Part.interleaving p.apart.swap router s
  have second := Part.interleaving p.othersApart.swap controller s
  exact ⟨first.1.trans second.1, fun admitted => second.2 (first.2 admitted)⟩

/-- Only the controller's part talks to the interface, so the interface sees no other. -/
theorem seen_by_interface {σ : Type} {P : Part σ} {url : String}
    (h : ∀ e : Event, e.call.isAccountAt url = false → P.Ignores e) (s : σ) :
    P.run s t = P.run s p.controller ∧ (P.Admits s t → P.Admits s p.controller) :=
  p.seen_by_controller
    (fun e he => h e (not_account_of_within (p.playsRouter.only (router_reach settings cp) e he) url))
    (fun e he => h e
      (not_account_of_within (p.playsPortManager.only (portManager_reach settings cp) e he) url)) s

theorem router_storedAt (h : a.name ∉ routerNames) : ∀ e ∈ p.router, e.storedAt? a = none :=
  fun e he => storedAt_of_within (p.playsRouter.only (router_reach settings cp) e he)
    fun _ ho heq => h (heq ▸ ho.1.2)

theorem portManager_storedAt (h : a.name ∉ portManagerNames) :
    ∀ e ∈ p.portManager, e.storedAt? a = none :=
  fun e he => storedAt_of_within (p.playsPortManager.only (portManager_reach settings cp) e he)
    fun _ ho heq => h (heq ▸ ho.2)

theorem controller_storedAt (h : a.name ∉ controllerNames) :
    ∀ e ∈ p.controller, e.storedAt? a = none := by
  intro e he
  rcases p.playsController.only (controller_reach settings cp) e he with hw | ⟨ns, -, hc⟩
  · exact storedAt_of_within hw fun _ ho heq => h (heq ▸ ho.2)
  · rcases hc with account | ⟨name, restart⟩
    · exact storedAt_of_account account a
    · obtain ⟨c, r⟩ := e
      obtain rfl := restart
      rfl

/-- The controller and the port manager leave alone what has none of their names. -/
theorem others_storedAt (controller : a.name ∉ controllerNames)
    (portManager : a.name ∉ portManagerNames) : ∀ e ∈ p.others, e.storedAt? a = none := by
  intro e he
  rcases p.othersApart.mem_iff.1 he with he | he
  · exact p.controller_storedAt controller e he
  · exact p.portManager_storedAt portManager e he

include p in
/-- All parts leave other namespaces alone. -/
theorem other_storedAt (h : cp.metadata.namespaceName ≠ some a.namespaceName) :
    ∀ e ∈ t, e.storedAt? a = none := by
  have part {names : List String} {o : Object} (ho : IsPartOf cp names o) : o.address ≠ a :=
    fun heq => h (heq ▸ ho.1)
  intro e he
  rcases p.apart.mem_iff.1 he with he | he
  · exact storedAt_of_within (p.playsRouter.only (router_reach settings cp) e he) fun _ ho => part ho.1
  rcases p.othersApart.mem_iff.1 he with he | he
  · rcases p.playsController.only (controller_reach settings cp) e he with h | ⟨ns, -, h | ⟨name, h⟩⟩
    · exact storedAt_of_within h fun _ => part
    · exact storedAt_of_account h a
    · obtain ⟨c, r⟩ := e
      obtain rfl := h
      rfl
  · exact storedAt_of_within (p.playsPortManager.only (portManager_reach settings cp) e he)
      fun _ => part

end Parts

/-- A visit that enters the phase of being ready had a clean outcome of each part. -/
theorem Visits.exists_pass_of_ready {ns name : String} (h : Visits settings ns name t o)
    (ready : t.any (·.entersReady)) : ∃ p : Pass settings ns name t, p.parts.isClean := by
  obtain ⟨e, he, hready⟩ := List.any_eq_true.1 ready
  rcases h.idle_or_pass with idle | ⟨⟨p⟩⟩
  · simp [(idle e he).2] at hready
  · refine ⟨p, p.clean fun none => ?_⟩
    rw [p.eq, none, List.append_nil] at he
    rcases List.mem_cons.1 he with rfl | he
    · simp [Event.entersReady] at hready
    rcases List.mem_append.1 he with he | he
    · simp [p.notReady e he] at hready
    · have := p.parts.not_bookkeeping e he
      obtain ⟨c, r⟩ := e
      cases c <;> simp [Event.entersReady, Call.isBookkeeping] at this hready

/-- A visit is its parts with bookkeeping around them. -/
theorem Pass.around {ns name : String} (p : Pass settings ns name t) :
    ∃ r, Interleaving p.middle r t ∧ ∀ e ∈ r, e.call.isBookkeeping := by
  refine ⟨(⟨.fetch ns name, .ok (some p.cp)⟩ :: p.before) ++ p.after, ?_, fun e he => ?_⟩
  · have around := Interleaving.surround (⟨.fetch ns name, .ok (some p.cp)⟩ :: p.before) p.middle
      p.after
    refine (congrArg (Interleaving p.middle _) p.eq).mpr ?_
    simpa using around
  · rw [List.cons_append] at he
    rcases List.mem_cons.1 he with rfl | he
    · rfl
    · exact p.bookkept e he

/-- What ignores bookkeeping sees of a visit only its parts. -/
theorem Pass.seen {σ : Type} {P : Part σ} (h : ∀ e : Event, e.call.isBookkeeping → P.Ignores e)
    {ns name : String} (p : Pass settings ns name t) (s : σ) :
    P.run s t = P.run s p.middle ∧ (P.Admits s t → P.Admits s p.middle) := by
  obtain ⟨r, around, bookkept⟩ := p.around
  exact Part.interleaving around (fun e he => h e (bookkept e he)) s

theorem storedAt_of_bookkeeping {e : Event} (h : e.call.isBookkeeping) (a : Address) :
    e.storedAt? a = none := by
  obtain ⟨c, r⟩ := e
  cases c <;> first | rfl | simp [Call.isBookkeeping] at h

theorem objectAt_ignores_bookkeeping (a : Address) (e : Event) (h : e.call.isBookkeeping) :
    (Part.objectAt a).Ignores e :=
  Part.objectAt_ignores (storedAt_of_bookkeeping h a)

theorem not_account_of_bookkeeping {c : Call} (h : c.isBookkeeping) (url : String) :
    c.isAccountAt url = false := by
  cases c <;> first | rfl | simp [Call.isBookkeeping] at h

end Reconcile

end EdgePlane
