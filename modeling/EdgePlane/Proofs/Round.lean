import EdgePlane.Proofs.ControllerTrace
import EdgePlane.Proofs.Pass
import EdgePlane.Proofs.WorldTrace

/-!
# Rounds of the controller's part

A round is one pass of the controller's part, as it was played. Rounds follow one another, each with the
control plane that was declared by then; any call of theirs may have failed. A visit that brings the
components about has one round, and beside it bookkeeping and what the other two parts do.
-/

namespace EdgePlane.Reconcile

open Kubernetes Simulation

variable {settings : Setup} {ns name : String} {t : List Event}

/-- A pass of the controller's part, as it was played. -/
structure Round (settings : Setup) where
  cp : ControlPlane
  trace : List Event
  outcome : Outcome
  plays : (controller settings cp).Plays trace outcome

/-- The trace of rounds after one another. -/
def history (rounds : List (Round settings)) : List Event := rounds.flatMap (·.trace)

@[simp] theorem history_nil : history ([] : List (Round settings)) = [] := rfl

@[simp] theorem history_cons (r : Round settings) (rounds : List (Round settings)) :
    history (r :: rounds) = r.trace ++ history rounds := rfl

@[simp] theorem history_append (rounds later : List (Round settings)) :
    history (rounds ++ later) = history rounds ++ history later := List.flatMap_append

theorem mem_history {rounds : List (Round settings)} {e : Event} :
    e ∈ history rounds ↔ ∃ r ∈ rounds, e ∈ r.trace := List.mem_flatMap

/-- The replacement of pods of a deployment, done. -/
def restarted (ns name : String) : Event := ⟨.restart ns name, .ok ()⟩

/-- The controller's part of a pass in a world. -/
def controllerRound (settings : Setup) (w : World) (cp : ControlPlane) : Round settings :=
  ⟨cp, w.trace (controller settings cp), (w.run (controller settings cp)).1, w.plays_trace _⟩

/-- Rounds after one another in a world, one for each control plane. -/
def roundsIn (settings : Setup) : World → List ControlPlane → List (Round settings)
  | _, [] => []
  | w, cp :: cps =>
    controllerRound settings w cp :: roundsIn settings (w.run (controller settings cp)).2 cps

/-- An object sees the rounds in its world as they are. -/
theorem objectAt_roundsIn (settings : Setup) (w : World) (cps : List ControlPlane) (a : Address) :
    (Part.objectAt a).Admits (w.cluster.object? a) (history (roundsIn settings w cps)) := by
  induction cps generalizing w with
  | nil => trivial
  | cons cp cps ih =>
    obtain ⟨admitted, final⟩ := w.objectAt_trace (controller settings cp) a
    refine (Part.admits_append _ _ _ _).2 ⟨admitted, ?_⟩
    exact final ▸ ih (w.run (controller settings cp)).2

/-- So do the accounts of an interface. -/
theorem accountsAt_roundsIn (settings : Setup) (w : World) (cps : List ControlPlane)
    (url : String) :
    (Part.accountsAt url).Admits (w.accounts url) (history (roundsIn settings w cps)) := by
  induction cps generalizing w with
  | nil => trivial
  | cons cp cps ih =>
    obtain ⟨admitted, final⟩ := w.accountsAt_trace (controller settings cp) url
    refine (Part.admits_append _ _ _ _).2 ⟨admitted, ?_⟩
    exact final ▸ ih (w.run (controller settings cp)).2

/-- Whether an event of a visit is none of the controller's part. -/
inductive IsElsewhere (settings : Setup) (e : Event) : Prop
  | bookkeeping (bookkept : e.call.isBookkeeping)
  | router (cp : ControlPlane) (t : List Event) (o : Outcome)
    (plays : (router settings cp).Plays t o) (mem : e ∈ t)
  | portManager (cp : ControlPlane) (t : List Event) (o : Outcome)
    (plays : (portManager settings cp).Plays t o) (mem : e ∈ t)

/-- The round of a visit. -/
def Pass.round (p : Pass settings ns name t) : Round settings :=
  ⟨p.cp, p.parts.controller, p.parts.controllerOutcome, p.parts.playsController⟩

theorem Pass.around_round (p : Pass settings ns name t) :
    ∃ others, Interleaving p.round.trace others t ∧ ∀ e ∈ others, IsElsewhere settings e := by
  obtain ⟨book, around, bookkept⟩ := p.around
  obtain ⟨beside, first, besideParts⟩ := p.parts.apart.regroup p.parts.othersApart
  obtain ⟨others, whole, othersParts⟩ := around.swap.regroup first
  refine ⟨others, whole, fun e he => ?_⟩
  rcases othersParts.mem_iff.1 he with he | he
  · exact .bookkeeping (bookkept e he)
  rcases besideParts.mem_iff.1 he with he | he
  · exact .router _ _ _ p.parts.playsRouter he
  · exact .portManager _ _ _ p.parts.playsPortManager he

/-- Visits after one another are rounds after one another, with bystanders. What holds of the control
planes that the visits find holds of those of the rounds. -/
theorem exists_rounds {P : ControlPlane → Prop} {visits : List (List Event)}
    (visited : ∀ t ∈ visits, ∃ o, Visits settings ns name t o)
    (found : ∀ t ∈ visits, ∀ p : Pass settings ns name t, P p.cp) :
    ∃ (rounds : List (Round settings)) (others : List Event),
      Interleaving (history rounds) others visits.flatten ∧ (∀ r ∈ rounds, P r.cp) ∧
        ∀ e ∈ others, IsElsewhere settings e := by
  induction visits with
  | nil => exact ⟨[], [], .nil, by simp, by simp⟩
  | cons t visits ih =>
    obtain ⟨rounds, others, apart, holds, elsewhere⟩ :=
      ih (fun u hu => visited u (by simp [hu])) fun u hu => found u (by simp [hu])
    obtain ⟨o, visit⟩ := visited t (by simp)
    rcases visit.idle_or_pass with idle | ⟨⟨p⟩⟩
    · refine ⟨rounds, t ++ others, (Interleaving.nil_left t).append apart, holds, fun e he => ?_⟩
      exact (List.mem_append.1 he).elim (fun he => .bookkeeping (idle e he).1) (elsewhere e)
    · obtain ⟨beside, around, besideElsewhere⟩ := p.around_round
      refine ⟨p.round :: rounds, beside ++ others, around.append apart, fun r hr => ?_, fun e he => ?_⟩
      · rcases List.mem_cons.1 hr with rfl | hr
        · exact found t (by simp) p
        · exact holds r hr
      · exact (List.mem_append.1 he).elim (besideElsewhere e) (elsewhere e)

end EdgePlane.Reconcile
