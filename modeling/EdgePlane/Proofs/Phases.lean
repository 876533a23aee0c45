import EdgePlane.Proofs.Happening

/-!
# The phases of a control plane

The conditions of a control plane are written by its passes alone. They go from whatever they were to the
phase of deploying and from there to that of being ready, and nowhere else, however many passes there are
and whichever of their calls fail.
-/

namespace EdgePlane

open Kubernetes
open ControlPlane (Phase Condition)
open Simulation.Cluster (placeOf)

namespace ControlPlane

/-- The phase that conditions tell. -/
def phaseOf (conditions : List Condition) : Option Phase :=
  (Status.mk conditions).activeType.bind Phase.ofConditionType?

theorem phase_eq_phaseOf (cp : ControlPlane) : cp.phase = phaseOf cp.conditions := by
  obtain ⟨-, -, status⟩ := cp
  cases status <;> rfl

/-- The condition of a phase tells the phase. -/
@[simp] theorem phaseOf_active (phase : Phase) (time : Instant) :
    phaseOf [Condition.active phase.conditionType time] = some phase := by
  have isTrue : (Condition.active phase.conditionType time).isTrue = true := by
    simp only [Condition.active, Condition.isTrue]
    decide
  have active : (Status.mk [Condition.active phase.conditionType time]).activeType =
      some phase.conditionType := by
    simp only [Status.activeType, List.find?_cons, isTrue]
    rfl
  rw [phaseOf, active]
  cases phase <;> decide

end ControlPlane

open ControlPlane (phaseOf phaseOf_active phase_eq_phaseOf)

namespace Part

variable {σ : Type} {P : Part σ} {R : σ → σ → Prop} {s : σ} {t u : List Event}

/-- The conditions of the control plane of a name, which is there all the time. -/
def conditionsAt (ns name : String) : Part (List Condition) where
  after old
    | ⟨.record cp conditions, .ok _⟩ => if placeOf cp = (ns, name) then conditions else old
    | _ => old
  Fits old
    | ⟨.fetch ns' name', .ok found⟩ => (ns', name') = (ns, name) →
      ∃ cp, found = some cp ∧ placeOf cp = (ns, name) ∧ cp.conditions = old
    | _ => True

/-- Whether each event of a trace takes a part to a state that is related to the one before. -/
def Moves (P : Part σ) (R : σ → σ → Prop) : σ → List Event → Prop
  | _, [] => True
  | s, e :: t => R s (P.after s e) ∧ Moves P R (P.after s e) t

theorem moves_append : P.Moves R s (t ++ u) ↔ P.Moves R s t ∧ P.Moves R (P.run s t) u := by
  induction t generalizing s with
  | nil => simp [Moves]
  | cons e t ih => simp [Moves, ih, and_assoc]

theorem moves_of_ignores (refl : ∀ s, R s s) (h : ∀ e ∈ t, P.Ignores e) : P.Moves R s t := by
  induction t with
  | nil => trivial
  | cons e t ih =>
    rw [Moves, h e (by simp) s]
    exact ⟨refl s, ih fun e he => h e (by simp [he])⟩

/-- What the relation keeps, the whole trace keeps. -/
theorem Moves.keeps {I : σ → Prop} (step : ∀ s s', R s s' → I s → I s') (h : P.Moves R s t)
    (hs : I s) : I (P.run s t) := by
  induction t generalizing s with
  | nil => exact hs
  | cons e t ih => exact ih h.2 (step _ _ h.1 hs)

theorem conditionsAt_ignores {ns name : String} {e : Event}
    (h : ∀ cp conditions, e.call ≠ .record cp conditions) : (conditionsAt ns name).Ignores e := by
  intro s
  obtain ⟨c, r⟩ := e
  cases c with
  | record cp conditions => exact absurd rfl (h cp conditions)
  | _ => rfl

end Part

namespace Reconcile

variable {settings : Setup} {cp : ControlPlane} {ns name : String} {t : List Event} {o : Outcome}
  {c d : List Condition}

/-- How conditions may change: from no phase that is known to that of deploying, and from there to that
of being ready. -/
def Advances (c d : List Condition) : Prop :=
  d = c ∨
    (phaseOf c = none ∧ ∃ time, d = [Condition.active Phase.deploying.conditionType time]) ∨
    (phaseOf c = some .deploying ∧ ∃ time, d = [Condition.active Phase.ready.conditionType time])

/-- Whether conditions are those from the start, or the one of a phase. -/
def IsMarked (initial c : List Condition) : Prop :=
  c = initial ∨ ∃ (phase : Phase) (time : Instant), c = [Condition.active phase.conditionType time]

theorem IsMarked.advance {initial : List Condition} (h : Advances c d) (marked : IsMarked initial c) :
    IsMarked initial d := by
  rcases h with rfl | ⟨-, time, rfl⟩ | ⟨-, time, rfl⟩
  · exact marked
  · exact .inr ⟨.deploying, time, rfl⟩
  · exact .inr ⟨.ready, time, rfl⟩

/-- The parts of a pass leave the conditions alone. -/
theorem Parts.conditionsAt_ignores (p : Parts settings cp t) :
    ∀ e ∈ t, (Part.conditionsAt ns name).Ignores e := by
  refine fun e he => Part.conditionsAt_ignores fun cp conditions h => ?_
  have aside := p.not_bookkeeping e he
  rw [h] at aside
  cases aside

/-- A control plane that is found deploying, or made so, has the condition of that phase first. -/
theorem Deploys.advances {before : List Event} (entry : Deploys cp before)
    (place : placeOf cp = (ns, name)) :
    (Part.conditionsAt ns name).Moves Advances cp.conditions before ∧
      phaseOf ((Part.conditionsAt ns name).run cp.conditions before) = some .deploying := by
  cases entry with
  | already phase => exact ⟨trivial, (phase_eq_phaseOf cp).symm.trans phase⟩
  | anew phase time =>
    have now : (Part.conditionsAt ns name).after cp.conditions
        ⟨.record cp [Condition.active Phase.deploying.conditionType time], .ok ()⟩ =
          [Condition.active Phase.deploying.conditionType time] := if_pos place
    refine ⟨⟨.inl rfl, ?_, trivial⟩, ?_⟩
    · exact .inr (.inl ⟨(phase_eq_phaseOf cp).symm.trans phase, time, now⟩)
    · have run : (Part.conditionsAt ns name).run cp.conditions [⟨.now, time⟩,
          ⟨.record cp [Condition.active Phase.deploying.conditionType time], .ok ()⟩] =
            [Condition.active Phase.deploying.conditionType time] := now
      rw [run, phaseOf_active]

/-- A lookup that fits finds the control plane with its conditions. -/
theorem found_of_fits (fits : (Part.conditionsAt ns name).Fits c ⟨.fetch ns name, .ok (some cp)⟩) :
    placeOf cp = (ns, name) ∧ cp.conditions = c := by
  obtain ⟨_, ⟨⟩, place, conditions⟩ := fits rfl
  exact ⟨place, conditions⟩

/-- A visit changes conditions only as they may change. -/
theorem Visits.moves (h : Visits settings ns name t o)
    (admitted : (Part.conditionsAt ns name).Admits c t) :
    (Part.conditionsAt ns name).Moves Advances c t := by
  have refl (c : List Condition) : Advances c c := .inl rfl
  cases h with
  | unreadable e => exact ⟨refl c, trivial⟩
  | gone => exact ⟨refl c, refl c, trivial⟩
  | idle cp phase => exact ⟨refl c, trivial⟩
  | refused cp phase time e => exact ⟨refl c, refl c, refl c, trivial⟩
  | pending cp before m entry p unclean =>
    obtain ⟨place, rfl⟩ := found_of_fits admitted.1
    refine ⟨refl _, Part.moves_append.2 ⟨(entry.advances place).1, ?_⟩⟩
    exact Part.moves_of_ignores refl p.conditionsAt_ignores
  | converged cp before m entry p clean time r =>
    obtain ⟨place, rfl⟩ := found_of_fits admitted.1
    obtain ⟨entered, deploying⟩ := entry.advances place
    have quiet : ∀ e ∈ m, (Part.conditionsAt ns name).Ignores e := p.conditionsAt_ignores
    refine ⟨refl _, Part.moves_append.2 ⟨entered, Part.moves_append.2
      ⟨Part.moves_of_ignores refl quiet, ?_⟩⟩⟩
    change (Part.conditionsAt ns name).Moves Advances ((Part.conditionsAt ns name).run
      ((Part.conditionsAt ns name).run cp.conditions before) m) _
    rw [Part.run_of_ignores quiet]
    cases r with
    | error e => exact ⟨refl _, refl _, trivial⟩
    | ok u => exact ⟨refl _, .inr (.inr ⟨deploying, time, if_pos place⟩), trivial⟩

/-- Whether the start of a pass failed: the lookup of the control plane, or the entry into the phase of
deploying. -/
def StartFails (t : List Event) : Prop :=
  (∃ ns name e, ⟨.fetch ns name, .error e⟩ ∈ t) ∨
    ∃ cp time e, ⟨.record cp [Condition.active Phase.deploying.conditionType time], .error e⟩ ∈ t

/-- Whether a trace leaves every object, every management interface and the conditions of all control
planes as they were. -/
structure LeavesAll (t : List Event) : Prop where
  bookkept : ∀ e ∈ t, e.call.isBookkeeping
  objects : ∀ a old, (Part.objectAt a).run old t = old
  accounts : ∀ url s, (Part.accountsAt url).run s t = s
  routers : ∀ url router, (Part.routerAt url).run router t = router
  conditions : ∀ ns name c, (Part.conditionsAt ns name).run c t = c

theorem leavesAll_of_bookkeeping (bookkept : ∀ e ∈ t, e.call.isBookkeeping)
    (conditions : ∀ ns name c, (Part.conditionsAt ns name).run c t = c) : LeavesAll t where
  bookkept := bookkept
  objects a := Part.run_of_ignores fun e he => objectAt_ignores_bookkeeping a e (bookkept e he)
  accounts url := Part.run_of_ignores fun e he =>
    Part.accountsAt_ignores (not_account_of_bookkeeping (bookkept e he) url)
  routers url := Part.run_of_ignores fun e he =>
    Part.routerAt_ignores (not_account_of_bookkeeping (bookkept e he) url)
  conditions := conditions

/-- What a visit does that finds some conditions. -/
structure PassRules (settings : Setup) (ns name : String) (c : List Condition) (t : List Event) :
    Prop where
  /-- The phase of being ready is written only after all parts had a clean outcome, and so had they as
  one. -/
  ready_of_clean : ∀ cp conditions r, ⟨.record cp conditions, r⟩ ∈ t →
    (∃ x ∈ conditions, x.type = Phase.ready.conditionType) →
    ∃ (before m after : List Event) (p : Parts settings cp m), t = before ++ (m ++ after) ∧
      (∀ e ∈ before ++ after, e.call.isBookkeeping) ∧ p.isClean ∧ p.outcome.isClean ∧
      ⟨.record cp conditions, r⟩ ∈ after
  /-- A control plane that is ready is looked up, and that is all. -/
  idle_of_ready : phaseOf c = some .ready → ∃ r, t = [⟨.fetch ns name, r⟩]
  untouched : StartFails t → LeavesAll t

/-- A bookkeeping event is not among those of the parts. -/
theorem Parts.not_mem {e : Event} (p : Parts settings cp t) (bookkept : e.call.isBookkeeping) : e ∉ t := by
  intro he
  have aside := p.not_bookkeeping e he
  rw [bookkept] at aside
  cases aside

theorem Deploys.mem {before : List Event} {e : Event} (entry : Deploys cp before) (he : e ∈ before) :
    ∃ time, e = ⟨.now, time⟩ ∨
      e = ⟨.record cp [Condition.active Phase.deploying.conditionType time], .ok ()⟩ := by
  cases entry with
  | already => cases he
  | anew phase time =>
    simp only [List.mem_cons, List.not_mem_nil, or_false] at he
    exact ⟨time, he⟩

/-- A lookup that fails is all of its visit. -/
theorem Visits.leavesAll_of_fetch {ns' name' : String} {e : Failure} (h : Visits settings ns name t o)
    (he : ⟨.fetch ns' name', .error e⟩ ∈ t) : LeavesAll t := by
  have deploying {cp : ControlPlane} {before m after : List Event} (entry : Deploys cp before)
      (p : Parts settings cp m) (later : ⟨.fetch ns' name', .error e⟩ ∉ after) :
      ⟨.fetch ns' name', .error e⟩ ∉ (⟨.fetch ns name, .ok (some cp)⟩ :: (before ++ (m ++ after)) :
        List Event) := by
    intro he
    simp only [List.mem_cons, List.mem_append] at he
    rcases he with he | he | he | he
    · cases he
    · obtain ⟨time, h | h⟩ := entry.mem he <;> cases h
    · exact p.not_mem rfl he
    · exact later he
  cases h with
  | unreadable e => exact leavesAll_of_bookkeeping (by simp [Call.isBookkeeping]) fun _ _ _ => rfl
  | gone => simp at he
  | idle => simp at he
  | refused => simp at he
  | pending cp before m entry p unclean =>
    rw [← List.append_nil m] at he
    exact (deploying entry p (by simp) he).elim
  | converged cp before m entry p clean time r =>
    exact (deploying entry p (by simp) he).elim

/-- A visit writes conditions to enter the phase of deploying, and does nothing else if that is refused;
or to enter that of being ready, after its parts had a clean outcome. -/
theorem Visits.mem_record {cp' : ControlPlane} {conditions : List Condition} {r : Except Failure Unit}
    (h : Visits settings ns name t o) (he : ⟨.record cp' conditions, r⟩ ∈ t) :
    ∃ time, (conditions = [Condition.active Phase.deploying.conditionType time] ∧
        ((∃ e, r = .error e) → LeavesAll t)) ∨
      (conditions = [Condition.active Phase.ready.conditionType time] ∧
        ∃ (before m after : List Event) (p : Parts settings cp' m), t = before ++ (m ++ after) ∧
          (∀ e ∈ before ++ after, e.call.isBookkeeping) ∧ p.isClean ∧ p.outcome.isClean ∧
          ⟨.record cp' conditions, r⟩ ∈ after) := by
  have entering {cp : ControlPlane} {before : List Event} {t : List Event} (entry : Deploys cp before)
      (he : ⟨.record cp' conditions, r⟩ ∈ before) :
      ∃ time, conditions = [Condition.active Phase.deploying.conditionType time] ∧
        ((∃ e, r = .error e) → LeavesAll t) := by
    obtain ⟨time, h | h⟩ := entry.mem he
    · cases h
    · cases h
      exact ⟨time, rfl, nofun⟩
  cases h with
  | unreadable => simp at he
  | gone => simp at he
  | idle => simp at he
  | refused cp phase time e =>
    simp only [List.mem_cons, List.not_mem_nil, or_false] at he
    rcases he with he | he | he
    · cases he
    · cases he
    · cases he
      exact ⟨time, .inl ⟨rfl, fun _ =>
        leavesAll_of_bookkeeping (by simp [Call.isBookkeeping]) fun _ _ _ => rfl⟩⟩
  | pending cp before m entry p unclean =>
    simp only [List.mem_cons, List.mem_append] at he
    rcases he with he | he | he
    · cases he
    · obtain ⟨time, entered⟩ := entering entry he
      exact ⟨time, .inl entered⟩
    · exact (p.not_mem rfl he).elim
  | converged cp before m entry p clean time r' =>
    simp only [List.mem_cons, List.mem_append, List.not_mem_nil, or_false] at he
    rcases he with he | he | he | he | he
    · cases he
    · obtain ⟨time, entered⟩ := entering entry he
      exact ⟨time, .inl entered⟩
    · exact (p.not_mem rfl he).elim
    · cases he
    · cases he
      refine ⟨time, .inr ⟨rfl, ⟨.fetch ns name, .ok (some cp')⟩ :: before, m, _, p, rfl, ?_,
        p.isClean_outcome ▸ clean, clean, by simp⟩⟩
      intro e he
      simp only [List.mem_cons, List.mem_append, List.not_mem_nil, or_false] at he
      rcases he with (rfl | he) | rfl | rfl
      · rfl
      · exact (entry.bookkept e he).1
      · rfl
      · rfl

theorem ready_ne_deploying : Phase.ready.conditionType ≠ Phase.deploying.conditionType := by decide

theorem Visits.rules (h : Visits settings ns name t o)
    (admitted : (Part.conditionsAt ns name).Admits c t) : PassRules settings ns name c t where
  ready_of_clean cp conditions r he ready := by
    obtain ⟨time, ⟨rfl, -⟩ | ⟨rfl, converged⟩⟩ := h.mem_record he
    · obtain ⟨x, hx, ready⟩ := ready
      rw [List.mem_singleton.1 hx] at ready
      exact (ready_ne_deploying ready.symm).elim
    · exact converged
  idle_of_ready ready := by
    have deploying {cp : ControlPlane} (unready : cp.phase ≠ some .ready)
        (fits : (Part.conditionsAt ns name).Fits c ⟨.fetch ns name, .ok (some cp)⟩) : False := by
      rw [phase_eq_phaseOf, (found_of_fits fits).2] at unready
      exact unready ready
    cases h with
    | unreadable e => exact ⟨_, rfl⟩
    | gone =>
      obtain ⟨_, ⟨⟩, -⟩ := admitted.1 rfl
    | idle cp phase => exact ⟨_, rfl⟩
    | refused cp phase => exact (deploying (by simp [phase]) admitted.1).elim
    | pending cp before m entry => exact (deploying entry.not_ready admitted.1).elim
    | converged cp before m entry => exact (deploying entry.not_ready admitted.1).elim
  untouched failed := by
    rcases failed with ⟨ns', name', e, he⟩ | ⟨cp, time, e, he⟩
    · exact h.leavesAll_of_fetch he
    · obtain ⟨time', ⟨-, leaves⟩ | ⟨marks, -⟩⟩ := h.mem_record he
      · exact leaves ⟨e, rfl⟩
      · have types := congrArg (·.map Condition.type) marks
        exact (ready_ne_deploying (List.cons.inj types).1.symm).elim

theorem moves_of_passes {passes : List (List Event)}
    (visits : ∀ t ∈ passes, ∃ o, Visits settings ns name t o)
    (admitted : (Part.conditionsAt ns name).Admits c passes.flatten) :
    (Part.conditionsAt ns name).Moves Advances c passes.flatten := by
  induction passes generalizing c with
  | nil => trivial
  | cons t passes ih =>
    rw [List.flatten_cons, Part.admits_append] at admitted
    rw [List.flatten_cons, Part.moves_append]
    obtain ⟨o, first⟩ := visits t (by simp)
    exact ⟨first.moves admitted.1, ih (fun t ht => visits t (by simp [ht])) admitted.2⟩

end Reconcile

namespace Simulation

variable {ns name : String}

/-- Whether there is a control plane of a name, at its place. -/
def World.Declares (w : World) (ns name : String) : Prop :=
  ∃ cp, w.cluster.controlPlane? ns name = some cp ∧ placeOf cp = (ns, name)

namespace Cluster

variable (c : Cluster)

/-- A write of conditions is refused and has no effect, or it replaces those of the control plane. -/
theorem record_cases (cp : ControlPlane) (conditions : List Condition) :
    ((∃ e, (c.record cp conditions).1 = .error e) ∧ (c.record cp conditions).2 = c) ∨
      ((c.record cp conditions).1 = .ok () ∧ ∀ ns name,
        (c.record cp conditions).2.controlPlane? ns name =
          if (ns, name) = placeOf cp then
            some { (c.controlPlanes.get? (placeOf cp)).getD cp with status := some ⟨conditions⟩ }
          else c.controlPlane? ns name) := by
  unfold record
  split
  · exact .inl ⟨⟨_, rfl⟩, rfl⟩
  · exact .inr ⟨rfl, fun ns name => Dict.get?_insert ..⟩

end Cluster

namespace World

/-- What an answer makes of the conditions of a control plane is what the event says. -/
structure AnswersConditions (ns name : String) (w : World) (e : Event) (w' : World) : Prop where
  declares : w'.Declares ns name
  fits : (Part.conditionsAt ns name).Fits (w.cluster.conditions ns name) e
  conditions : w'.cluster.conditions ns name =
    (Part.conditionsAt ns name).after (w.cluster.conditions ns name) e

variable {w w' : World} {e : Event}

theorem answersConditions_of_same (declared : w.Declares ns name)
    (same : w'.cluster.controlPlanes = w.cluster.controlPlanes)
    (fits : (Part.conditionsAt ns name).Fits (w.cluster.conditions ns name) e)
    (ignores : (Part.conditionsAt ns name).Ignores e) : w.AnswersConditions ns name e w' where
  declares := by
    obtain ⟨cp, found, place⟩ := declared
    exact ⟨cp, by rw [Cluster.controlPlane?, same]; exact found, place⟩
  fits := fits
  conditions := by rw [ignores, Cluster.conditions, Cluster.controlPlane?, same]; rfl

/-- Only a write of conditions changes control planes. -/
theorem controlPlanes_answer (c : Call) (w : World)
    (h : ∀ cp conditions, c ≠ .record cp conditions) :
    (answer c w).2.cluster.controlPlanes = w.cluster.controlPlanes := by
  rcases answer_cases c w with ⟨α, f, same, reaches⟩ | ⟨α, url, f, same, -⟩ | ⟨cluster, -⟩
  · rw [same]
    obtain ⟨-, -, ⟨-, -, cluster⟩ | ⟨-, cluster⟩⟩ := askCluster_cases w c f
    · rw [cluster]
    · rw [cluster, reaches.controlPlanes h]
  · rw [same, (askApi_cases w c url f).1]
  · rw [cluster]

/-- A lookup of a control plane that is there finds it with its conditions, or fails. -/
theorem fits_fetch (declared : w.Declares ns name) (ns' name' : String) :
    (Part.conditionsAt ns name).Fits (w.cluster.conditions ns name)
      ⟨.fetch ns' name', (answer (.fetch ns' name') w).1⟩ := by
  obtain ⟨cp, found, place⟩ := declared
  obtain ⟨-, -, ⟨-, ⟨e, reply⟩, -⟩ | ⟨reply, -⟩⟩ :=
    askCluster_cases w (.fetch ns' name') fun c => (c.fetch ns' name', c)
  · rw [answer, reply]
    trivial
  · rw [answer, reply]
    dsimp only [Cluster.fetch]
    split
    · trivial
    · intro here
      cases here
      exact ⟨cp, found, place, by simp [Cluster.conditions, found]⟩

/-- A write of conditions replaces those of the control plane at its place, unless it fails. -/
theorem answersConditions_record (declared : w.Declares ns name) (cp : ControlPlane)
    (conditions : List Condition) :
    w.AnswersConditions ns name ⟨.record cp conditions, (answer (.record cp conditions) w).1⟩
      (answer (.record cp conditions) w).2 := by
  obtain ⟨-, -, ⟨-, ⟨e, reply⟩, kept⟩ | ⟨reply, now⟩⟩ :=
    askCluster_cases w (.record cp conditions) (·.record cp conditions)
  · rw [answer, reply]
    exact answersConditions_of_same declared (by rw [kept]) trivial fun _ => rfl
  rcases w.cluster.record_cases cp conditions with ⟨⟨e, failed⟩, kept⟩ | ⟨done, written⟩
  · rw [answer, reply, failed]
    exact answersConditions_of_same declared (by rw [now, kept]) trivial fun _ => rfl
  rw [answer, reply, done]
  by_cases here : placeOf cp = (ns, name)
  · obtain ⟨stored, found, place⟩ := declared
    have hit := written ns name
    rw [if_pos here.symm, here, show w.cluster.controlPlanes.get? (ns, name) = some stored from found,
      Option.getD_some, ← now] at hit
    refine ⟨⟨_, hit, place⟩, trivial, ?_⟩
    rw [Cluster.conditions, hit]
    exact (if_pos here).symm
  · have aside := written ns name
    rw [if_neg (Ne.symm here), ← now] at aside
    obtain ⟨stored, found, place⟩ := declared
    refine ⟨⟨stored, aside.trans found, place⟩, trivial, ?_⟩
    rw [Cluster.conditions, aside]
    exact (if_neg here).symm

theorem answersConditions_answer (declared : w.Declares ns name) (c : Call) :
    w.AnswersConditions ns name ⟨c, (answer c w).1⟩ (answer c w).2 := by
  by_cases writes : ∃ cp conditions, c = .record cp conditions
  · obtain ⟨cp, conditions, rfl⟩ := writes
    exact answersConditions_record declared cp conditions
  · have quiet (cp : ControlPlane) (conditions : List Condition) : c ≠ .record cp conditions :=
      fun h => writes ⟨cp, conditions, h⟩
    refine answersConditions_of_same declared (controlPlanes_answer c w quiet) ?_
      (Part.conditionsAt_ignores quiet)
    cases c with
    | fetch ns' name' => exact fits_fetch declared ns' name'
    | _ => trivial

/-- The conditions of a control plane that is there are seen in a run, and are as it leaves them. -/
theorem conditionsAt_trace {α : Type} (p : Program α) (declared : w.Declares ns name) :
    (Part.conditionsAt ns name).Admits (w.cluster.conditions ns name) (w.trace p) ∧
      (w.run p).2.cluster.conditions ns name =
        (Part.conditionsAt ns name).run (w.cluster.conditions ns name) (w.trace p) :=
  (w.follows_trace p).seen (·.cluster.conditions ns name) (·.Declares ns name) (fun _ _ _ => rfl)
    (fun c _ declared =>
      have answers := answersConditions_answer declared c
      ⟨answers.declares, answers.fits, answers.conditions⟩) declared

theorem Declares.run {α : Type} (declared : w.Declares ns name) (p : Program α) :
    (w.run p).2.Declares ns name :=
  (w.follows_trace p).keeps (I := (·.Declares ns name))
    (fun d _ declared => (answersConditions_answer declared (.sleep d)).declares)
    (fun e _ _ declared => (answersConditions_answer declared e.call).declares) declared

/-- The traces of passes over a control plane, one right after the other. -/
def passesIn (settings : Setup) (ns name : String) : Nat → World → List (List Event)
  | 0, _ => []
  | n + 1, w =>
    w.passTrace settings ns name ::
      passesIn settings ns name n (w.run (Reconcile.dispatch settings ns name)).2

theorem visits_passesIn (settings : Setup) (ns name : String) (n : Nat) (w : World) :
    ∀ t ∈ passesIn settings ns name n w, ∃ o, Reconcile.Visits settings ns name t o := by
  induction n generalizing w with
  | zero => simp [passesIn]
  | succ n ih =>
    intro t ht
    rcases List.mem_cons.1 ht with rfl | ht
    · exact ⟨_, Reconcile.visits_of_plays (w.plays_trace _)⟩
    · exact ih _ t ht

theorem conditionsAt_passesIn (settings : Setup) (n : Nat) (declared : w.Declares ns name) :
    (Part.conditionsAt ns name).Admits (w.cluster.conditions ns name)
      (passesIn settings ns name n w).flatten := by
  induction n generalizing w with
  | zero => trivial
  | succ n ih =>
    obtain ⟨admitted, final⟩ :=
      conditionsAt_trace (Reconcile.dispatch settings ns name) declared
    rw [passesIn, List.flatten_cons, Part.admits_append]
    exact ⟨admitted, final ▸ ih (declared.run _)⟩

end World

/-- A world with a control plane that someone else has marked. -/
def pausedWorld : World where
  cluster := ({} : Cluster).insertControlPlane { plainControlPlane "a@b.c" (.ofPlain "one") {} with
    status := some ⟨[⟨"paused", "True", none⟩]⟩ }

/-- Three passes over it: they enter the phase of deploying, then that of being ready, then none. -/
def pausedPasses : List (List Event) := World.passesIn .standard "ns" "ecn" 3 pausedWorld

/-- The conditions that the passes find. -/
def pausedConditions : List Condition := pausedWorld.cluster.conditions "ns" "ecn"

end Simulation

namespace Reconcile

open Simulation

variable {settings : Setup} {ns name : String}

/-- However many passes over a control plane there are, whichever of their calls fail, whichever part has
its turn at which call and whatever else changes between the passes: its conditions are those from the
start or the one of a phase all the time, and each event takes them only from no known phase to deploying
or from deploying to ready. Each pass enters the phase of being ready only after a clean outcome of its
parts, does nothing once that phase is found, and leaves everything as it was if its start fails. -/
theorem phases_of_passes {passes : List (List Event)} {initial : List Condition}
    (visits : ∀ t ∈ passes, ∃ o, Visits settings ns name t o)
    (admitted : (Part.conditionsAt ns name).Admits initial passes.flatten) :
    (∀ t₁ t₂, passes.flatten = t₁ ++ t₂ →
      IsMarked initial ((Part.conditionsAt ns name).run initial t₁)) ∧
    (∀ t₁ e t₂, passes.flatten = t₁ ++ e :: t₂ →
      Advances ((Part.conditionsAt ns name).run initial t₁)
        ((Part.conditionsAt ns name).run initial (t₁ ++ [e]))) ∧
    ∀ earlier t later, passes = earlier ++ t :: later →
      PassRules settings ns name ((Part.conditionsAt ns name).run initial earlier.flatten) t := by
  have moves := moves_of_passes visits admitted
  refine ⟨fun t₁ t₂ split => ?_, fun t₁ e t₂ split => ?_, fun earlier t later split => ?_⟩
  · rw [split, Part.moves_append] at moves
    exact moves.1.keeps (fun _ _ => IsMarked.advance) (.inl rfl)
  · rw [split, Part.moves_append] at moves
    rw [Part.run_append]
    exact moves.2.1
  · subst split
    obtain ⟨o, visit⟩ := visits t (by simp)
    rw [List.flatten_append, List.flatten_cons, Part.admits_append, Part.admits_append] at admitted
    exact visit.rules admitted.2.1

theorem phases_of_pausedPasses :
    (∀ t ∈ pausedPasses, ∃ o, Visits .standard "ns" "ecn" t o) ∧
    (Part.conditionsAt "ns" "ecn").Admits pausedConditions pausedPasses.flatten ∧
    (∀ t₁ t₂, pausedPasses.flatten = t₁ ++ t₂ → IsMarked pausedConditions
      ((Part.conditionsAt "ns" "ecn").run pausedConditions t₁)) ∧
    (∀ t₁ e t₂, pausedPasses.flatten = t₁ ++ e :: t₂ →
      Advances ((Part.conditionsAt "ns" "ecn").run pausedConditions t₁)
        ((Part.conditionsAt "ns" "ecn").run pausedConditions (t₁ ++ [e]))) ∧
    ∀ earlier t later, pausedPasses = earlier ++ t :: later →
      PassRules .standard "ns" "ecn"
        ((Part.conditionsAt "ns" "ecn").run pausedConditions earlier.flatten) t := by
  have visits := World.visits_passesIn .standard "ns" "ecn" 3 pausedWorld
  have admitted : (Part.conditionsAt "ns" "ecn").Admits pausedConditions pausedPasses.flatten :=
    World.conditionsAt_passesIn .standard 3 ⟨_, rfl, rfl⟩
  exact ⟨visits, admitted, phases_of_passes visits admitted⟩

example : ((Part.conditionsAt "ns" "ecn").run pausedConditions pausedPasses.flatten).map (·.type) =
    ["ready"] := by decide +kernel

end Reconcile

end EdgePlane
