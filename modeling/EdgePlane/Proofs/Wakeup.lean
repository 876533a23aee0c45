import EdgePlane.Proofs.Happening
import EdgePlane.Schedule

/-!
# When a control plane is visited again

A pass ends the visits of a control plane only if there is none, or if it found it ready. Nothing else
does: no part of a pass asks for the end, and a pass that leaves a control plane deploying fails or wishes
to come again.
-/

namespace EdgePlane

open Kubernetes
open ControlPlane (Phase)

namespace Attempt

variable {α β : Type} {P : α → Prop} {Q : β → Prop} {x : Attempt α} {f : α → Attempt β}

/-- Whatever an attempt yields satisfies `P`. -/
def Ends (P : α → Prop) (x : Attempt α) : Prop := ∀ t a, x.Yields t a → P a

theorem Ends.bind (h : ∀ a, (f a).Ends Q) : (x >>= f).Ends Q := by
  intro t b yields
  obtain ⟨-, a, t₂, -, -, rest⟩ := yields_bind.1 yields
  exact h a t₂ b rest

theorem Ends.pure {a : α} (h : P a) : (Pure.pure a : Attempt α).Ends P := by
  intro t b yields
  obtain ⟨-, rfl⟩ := yields_pure.1 yields
  exact h

theorem Ends.tryCatch {g : Failure → Attempt α} (hx : x.Ends P) (hg : ∀ e, (g e).Ends P) :
    (tryCatch x g).Ends P := by
  intro t a yields
  rcases yields_tryCatch.1 yields with h | ⟨-, e, t₂, -, -, h⟩
  · exact hx t a h
  · exact hg e t₂ a h

end Attempt

namespace Outcome

/-- Outcomes together are terminal when one of them is. -/
theorem terminal_mergeAll (outcomes : List Outcome) :
    (mergeAll outcomes).terminal = outcomes.any (·.terminal) := by
  have fold (start : Outcome) :
      (outcomes.foldl merge start).terminal = (start.terminal || outcomes.any (·.terminal)) := by
    induction outcomes generalizing start with
    | nil => simp
    | cons o rest ih => rw [List.foldl_cons, ih, List.any_cons, merge, Bool.or_assoc]
  exact fold proceed

/-- The visits stop after an outcome that is terminal or leaves nothing to do. -/
theorem decision_eq_stop_iff (o : Outcome) :
    o.decision = .stop ↔ o.terminal = true ∨ o.isClean = true := by
  obtain ⟨failure, terminal, requeue, delay⟩ := o
  cases terminal with
  | true => simp [decision]
  | false =>
    cases failure with
    | some e => simp [decision, isClean]
    | none =>
      cases requeue with
      | false => simp [decision, isClean]
      | true =>
        by_cases h : delay = .zero
        · simp [decision, isClean, h]
        · simp [decision, isClean, h]

end Outcome

/-- A change is awaited exactly after the decision to stop; after any other there is a next visit. -/
theorem Retries.conclude_eq_awaitChange_iff (retries : Retries) (key : String) (d : Decision) :
    (retries.conclude key d).1 = .awaitChange ↔ d = .stop := by
  cases d <;> simp [conclude, act]

namespace Reconcile

variable {settings : Setup} {cp : ControlPlane} {ns name : String} {t : List Event} {o : Outcome}

theorem not_terminal_of_settle {x : Attempt Outcome} (h : x.Ends (·.terminal = false))
    (plays : (settle x).Plays t o) : o.terminal = false := by
  rcases plays_settle.1 plays with yields | ⟨e, -, rfl⟩
  · exact h t o yields
  · rfl

theorem not_terminal_router (plays : (router settings cp).Plays t o) : o.terminal = false := by
  refine not_terminal_of_settle (.bind fun target => .bind fun _ => .bind fun _ =>
    .bind fun address => ?_) plays
  cases address with
  | none => exact .pure rfl
  | some address => exact .bind fun _ => .bind fun _ => .bind fun _ => .pure rfl

theorem ends_bootstrapController (settings : Setup) (target : Target) (cp : ControlPlane) :
    (bootstrapController settings target cp).Ends (·.terminal = false) := by
  refine .bind fun _ => .bind fun _ => .bind fun _ => .bind fun address => ?_
  cases address with
  | none => exact .pure rfl
  | some host =>
    refine .bind fun _ => ?_
    split
    · exact .pure rfl
    · refine .bind fun external => ?_
      cases external with
      | none => exact .pure rfl
      | some address => exact .tryCatch (.bind fun _ => .pure rfl) fun _ => .pure rfl

theorem ends_driveController (settings : Setup) (target : Target) (cp : ControlPlane) :
    (driveController settings target cp).Ends (·.terminal = false) := by
  refine .bind fun result => ?_
  dsimp only
  split
  · exact .pure rfl
  · split
    · exact .bind fun _ => ends_bootstrapController settings target cp
    · exact ends_bootstrapController settings target cp

theorem not_terminal_controller (plays : (controller settings cp).Plays t o) :
    o.terminal = false := by
  refine not_terminal_of_settle (.bind fun target => ?_) plays
  dsimp only
  split
  · exact .bind fun _ => ends_driveController settings target cp
  · exact ends_driveController settings target cp

theorem not_terminal_portManager (plays : (portManager settings cp).Plays t o) :
    o.terminal = false :=
  not_terminal_of_settle
    (.bind fun _ => .bind fun _ => .bind fun _ => .bind fun _ => .pure rfl) plays

/-- Bringing the components about never asks for the end of the visits. -/
theorem Parts.not_terminal (p : Parts settings cp t) : p.outcome.terminal = false := by
  simp [Parts.outcome, Outcome.terminal_mergeAll, not_terminal_router p.playsRouter,
    not_terminal_controller p.playsController, not_terminal_portManager p.playsPortManager]

/-- Whether a lookup of a control plane found that there is nothing to do: there is none, or it is
ready. -/
def IsSettled (found : Except Failure (Option ControlPlane)) : Prop :=
  found = .ok none ∨ ∃ cp, found = .ok (some cp) ∧ cp.phase = some .ready

/-- What a lookup of a control plane decides about the visits: they stop exactly if there is nothing to
do, and then only is a change awaited; the outcome is terminal exactly if there is none. -/
structure Decides (found : Except Failure (Option ControlPlane)) (o : Outcome) : Prop where
  stops : o.decision = .stop ↔ IsSettled found
  terminal : o.terminal = true ↔ found = .ok none
  awaits : ∀ (retries : Retries) (key : String),
    (retries.conclude key o.decision).1 = .awaitChange ↔ IsSettled found

theorem decides_of {found : Except Failure (Option ControlPlane)}
    (stops : o.decision = .stop ↔ IsSettled found) (terminal : o.terminal = true ↔ found = .ok none) :
    Decides found o where
  stops := stops
  terminal := terminal
  awaits retries key := (retries.conclude_eq_awaitChange_iff key o.decision).trans stops

/-- The lookup of a control plane comes first, and it decides whether the visits end. -/
theorem Visits.decides (h : Visits settings ns name t o) : ∃ found rest,
    t = ⟨.fetch ns name, found⟩ :: rest ∧ Decides found o := by
  have deploying {cp : ControlPlane} (phase : cp.phase ≠ some .ready) :
      ¬ IsSettled (.ok (some cp)) := by
    rintro (h | ⟨_, h, ready⟩)
    · cases h
    · cases h
      exact phase ready
  cases h with
  | unreadable e =>
    exact ⟨.error e, [], rfl, decides_of
      (by simp [IsSettled, Outcome.decision, Outcome.failed, Outcome.proceed])
      (by simp [Outcome.failed, Outcome.proceed])⟩
  | gone =>
    exact ⟨.ok none, _, rfl, decides_of (by simp [IsSettled, Outcome.decision, Outcome.stop])
      (by simp [Outcome.stop])⟩
  | idle cp phase =>
    exact ⟨.ok (some cp), [], rfl, decides_of
      (by simp [IsSettled, phase, Outcome.decision, Outcome.proceed]) (by simp [Outcome.proceed])⟩
  | refused cp phase time e =>
    refine ⟨.ok (some cp), _, rfl, decides_of (iff_of_false ?_ (deploying (by simp [phase]))) ?_⟩
    · simp [Outcome.decision, Outcome.failed, Outcome.proceed]
    · simp [Outcome.failed, Outcome.proceed]
  | pending cp before m entry p unclean =>
    refine ⟨.ok (some cp), _, rfl, decides_of (iff_of_false ?_ (deploying entry.not_ready)) ?_⟩
    · rw [p.outcome.decision_eq_stop_iff]
      simp [unclean, p.not_terminal]
    · simp [p.not_terminal]
  | converged cp before m entry p clean time r =>
    refine ⟨.ok (some cp), _, rfl, decides_of (iff_of_false ?_ (deploying entry.not_ready)) ?_⟩
    · cases r <;> simp [readyOutcome, Outcome.decision, Outcome.failed, Outcome.requeueNow,
        Outcome.proceed]
    · cases r <;> simp [readyOutcome, Outcome.failed, Outcome.requeueNow, Outcome.proceed]

/-- Whoever answers the calls of a visit, however they fail and whichever part has its turn at which
call: the lookup of the control plane, which comes first, decides about the visits. They stop exactly if
it found none or found it ready, and then only is a change awaited; the outcome is terminal exactly if
there is none. A pass that is run is such a visit, with the answer to its lookup. -/
theorem stops_iff_settled (settings : Setup) (ns name : String) :
    (∀ t o, Visits settings ns name t o → ∃ found rest,
      t = ⟨.fetch ns name, found⟩ :: rest ∧ Decides found o) ∧
    ∀ {σ : Type} (answer : (c : Call) → σ → c.Reply × σ) (s : σ),
      let outcome := ((dispatch settings ns name).run answer s).1
      Visits settings ns name ((dispatch settings ns name).trace answer s) outcome ∧
        Decides (answer (.fetch ns name) s).1 outcome := by
  refine ⟨fun t o visit => visit.decides, fun {σ} answer s => ?_⟩
  have visit := visits_of_plays (Program.plays_trace answer (dispatch settings ns name) s)
  refine ⟨visit, ?_⟩
  have first : ((dispatch settings ns name).trace answer s).head? =
      some ⟨.fetch ns name, (answer (.fetch ns name) s).1⟩ := rfl
  obtain ⟨found, rest, trace, decides⟩ := visit.decides
  rw [trace, List.head?_cons, Option.some.injEq, Event.mk.injEq] at first
  obtain rfl : found = (answer (.fetch ns name) s).1 := eq_of_heq first.2
  exact decides

/-- A control plane that is being deployed. -/
def deployingControlPlane : ControlPlane :=
  { Simulation.plainControlPlane "a@b.c" (.ofPlain "one") {} with
    status := some ⟨[⟨Phase.deploying.conditionType, "True", none⟩]⟩ }

/-- Why the cluster fails the lookup of a component's account. -/
def outOfReach (component : String) : Failure := .cluster (.transport (component ++ " is out of reach"))

/-- The lookup of a component's account fails. -/
def accountLost (component : String) : Event :=
  ⟨.get ⟨.serviceAccount, "ns", component⟩, .error (outOfReach component)⟩

/-- Parts that fail at their first calls, the last of them first. -/
def backwardsParts : Parts .standard deployingControlPlane
    [accountLost PortManager.name, accountLost Controller.name, accountLost Router.name] where
  router := [accountLost Router.name]
  controller := [accountLost Controller.name]
  portManager := [accountLost PortManager.name]
  others := [accountLost PortManager.name, accountLost Controller.name]
  routerOutcome := .failed (outOfReach Router.name)
  controllerOutcome := .failed (outOfReach Controller.name)
  portManagerOutcome := .failed (outOfReach PortManager.name)
  apart := .right _ (.right _ (.left _ .nil))
  othersApart := .right _ (.left _ .nil)
  playsRouter := .call rfl _ (.pure _)
  playsController := .call rfl _ (.pure _)
  playsPortManager := .call rfl _ (.pure _)

/-- A visit with these parts. -/
def backwards : List Event :=
  [⟨.fetch "ns" "ecn", .ok (some deployingControlPlane)⟩, accountLost PortManager.name,
    accountLost Controller.name, accountLost Router.name]

theorem visits_backwards : Visits .standard "ns" "ecn" backwards backwardsParts.outcome :=
  .pending deployingControlPlane [] _ (.already (by decide)) backwardsParts (by decide)

theorem visited_after_backwards :
    Visits .standard "ns" "ecn" backwards backwardsParts.outcome ∧
      Decides (.ok (some deployingControlPlane)) backwardsParts.outcome ∧
      ¬ IsSettled (.ok (some deployingControlPlane)) := by
  obtain ⟨found, rest, trace, decides⟩ :=
    (stops_iff_settled .standard "ns" "ecn").1 backwards _ visits_backwards
  have found_eq : found = .ok (some deployingControlPlane) := by
    cases trace
    rfl
  refine ⟨visits_backwards, found_eq ▸ decides, ?_⟩
  rintro (none | ⟨cp, here, ready⟩)
  · cases none
  · cases here
    exact absurd ready (by decide)

end Reconcile

end EdgePlane
