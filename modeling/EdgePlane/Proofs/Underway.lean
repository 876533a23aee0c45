import EdgePlane.Proofs.Pass
import EdgePlane.Proofs.Turns

/-!
# Passes that are underway

Any number of passes, and of parts of passes on their own, run at once and have come to any point of
their runs. Each of them calls only what it may call after what it has seen, so what is proved of a part
alone, call by call, holds of it in any company and wherever it is broken off.
-/

namespace EdgePlane

open Kubernetes

/-- What may be called after which events. What may be called stays so when more has happened. -/
structure Guard where
  Allows : List Event → Call → Prop
  lasts : ∀ {h h' : List Event} {c : Call}, h.Sublist h' → Allows h c → Allows h' c

/-- Whether each call of a trace is allowed after the events before it. -/
def Guard.Holds (G : Guard) (t : List Event) : Prop :=
  ∀ t₁ e t₂, t = t₁ ++ e :: t₂ → G.Allows t₁ e.call

/-- An element of two lists after one another stands in the first or in the second. -/
theorem split_of_append {α : Type} {t₁ t₂ u₁ u₂ : List α} {e : α} (h : t₁ ++ e :: t₂ = u₁ ++ u₂) :
    (∃ v, u₁ = t₁ ++ e :: v) ∨ ∃ v, t₁ = u₁ ++ v ∧ u₂ = v ++ e :: t₂ := by
  rcases List.append_eq_append_iff.1 h with ⟨v, rfl, tail⟩ | ⟨v, rfl, tail⟩
  · cases v with
    | nil => exact .inr ⟨[], by simp, tail.symm⟩
    | cons x v =>
      obtain ⟨rfl, -⟩ := List.cons.inj tail
      exact .inl ⟨v, rfl⟩
  · exact .inr ⟨v, rfl, tail⟩

/-- Each element of an interleaving stands in one of the lists, after no more than it stands after in the
interleaving. -/
theorem Interleaving.position {α : Type} {l r t₁ t₂ : List α} {e : α}
    (h : Interleaving l r (t₁ ++ e :: t₂)) :
    (∃ l₁ l₂, l = l₁ ++ e :: l₂ ∧ l₁.Sublist t₁) ∨ ∃ r₁ r₂, r = r₁ ++ e :: r₂ ∧ r₁.Sublist t₁ := by
  obtain ⟨l₁, l₂, r₁, r₂, rfl, rfl, before, after⟩ := h.cut
  cases after with
  | left _ rest => exact .inl ⟨l₁, _, rfl, before.sublist_left⟩
  | right _ rest => exact .inr ⟨r₁, _, rfl, before.swap.sublist_left⟩

/-- What each of two programs may call, it may call beside the other. -/
theorem Guard.Holds.interleaving {G : Guard} {l r t : List Event} (apart : Interleaving l r t)
    (hl : G.Holds l) (hr : G.Holds r) : G.Holds t := by
  rintro t₁ e t₂ rfl
  rcases apart.position with ⟨l₁, l₂, rfl, sub⟩ | ⟨r₁, r₂, rfl, sub⟩
  · exact G.lasts sub (hl l₁ e l₂ rfl)
  · exact G.lasts sub (hr r₁ e r₂ rfl)

/-- Whether a call is allowed at any time. -/
def Guard.Frees (G : Guard) (c : Call) : Prop := ∀ h, G.Allows h c

namespace Attempt

variable {α β : Type} {G : Guard} {P P' : List Event → Prop} {x : Attempt α} {Q : α → List Event → Prop}
  {f : α → Attempt β} {R : β → List Event → Prop}

/-- After events with `P` the attempt calls only what `G` allows, and where it succeeds `Q` holds of all
events. -/
structure Heeds (G : Guard) (P : List Event → Prop) (x : Attempt α) (Q : α → List Event → Prop) :
    Prop where
  allowed : ∀ {past t₁ e t₂ r}, P past → x.run.Plays (t₁ ++ e :: t₂) r → G.Allows (past ++ t₁) e.call
  leaves : ∀ {past t a}, P past → x.Yields t a → Q a (past ++ t)

/-- Events that end with those of an attempt which has yielded `a`, after events with `P`. -/
def Leaves (P : List Event → Prop) (x : Attempt α) (a : α) (h : List Event) : Prop :=
  ∃ past t, h = past ++ t ∧ P past ∧ x.Yields t a

namespace Heeds

theorem bind (hx : x.Heeds G P Q) (hf : ∀ a, (f a).Heeds G (Q a) R) : (x >>= f).Heeds G P R where
  allowed := by
    intro past t₁ e t₂ r before plays
    rcases plays_bind plays with ⟨cause, failed, rfl⟩ | ⟨u₁, a, u₂, split, yields, plays⟩
    · exact hx.allowed before failed
    rcases split_of_append split with ⟨v, rfl⟩ | ⟨v, rfl, rfl⟩
    · exact hx.allowed before yields
    · rw [← List.append_assoc]
      exact (hf a).allowed (hx.leaves before yields) plays
  leaves := by
    intro past t b before yields
    obtain ⟨t₁, a, t₂, rfl, first, second⟩ := yields_bind.1 yields
    rw [← List.append_assoc]
    exact (hf a).leaves (hx.leaves before first) second

theorem ofExcept_bind {r : Except Failure α} (h : ∀ a, r = .ok a → (f a).Heeds G P R) :
    (Attempt.ofExcept r >>= f).Heeds G P R := by
  cases r with
  | ok a => exact h a rfl
  | error e =>
    refine ⟨fun _ plays => ?_, fun _ yields => ?_⟩
    · have := (Program.plays_pure.1 plays).1
      simp at this
    · cases (Program.plays_pure.1 yields).2

theorem pure (a : α) (h : ∀ past, P past → Q a past) : (Pure.pure a : Attempt α).Heeds G P Q where
  allowed _ plays := by simpa using (Program.plays_pure.1 plays).1
  leaves before yields := by
    obtain ⟨rfl, rfl⟩ := yields_pure.1 yields
    simpa using h _ before

theorem mono (h : x.Heeds G P Q) {Q' : α → List Event → Prop} (weaker : ∀ a past, Q a past → Q' a past) :
    x.Heeds G P Q' := ⟨h.allowed, fun before yields => weaker _ _ (h.leaves before yields)⟩

/-- Of the events after an attempt it is known how it played the last of them. -/
theorem played (h : x.Heeds G P Q) : x.Heeds G P (x.Leaves P) :=
  ⟨h.allowed, fun before yields => ⟨_, _, rfl, before, yields⟩⟩

theorem of_free (free : ∀ {t r}, x.run.Plays t r → ∀ e ∈ t, G.Frees e.call) :
    x.Heeds G P (x.Leaves P) :=
  ⟨fun _ plays => free plays _ (by simp) _, fun before yields => ⟨_, _, rfl, before, yields⟩⟩

/-- What is allowed at any time keeps what more events keep. -/
theorem of_only (h : x.Only G.Frees) (lasts : ∀ past t, P past → P (past ++ t)) :
    x.Heeds G P fun _ => P :=
  (of_free fun plays => Program.Plays.only plays h).mono fun _ _ ⟨past, t, split, before, _⟩ =>
    split ▸ lasts past t before

/-- An attempt of one call. -/
theorem of_single {c : Call} (single : ∀ {t r}, x.run.Plays t r → ∃ reply, t = [⟨c, reply⟩])
    (h : ∀ past, P past → G.Allows past c) : x.Heeds G P (x.Leaves P) where
  allowed := by
    intro past t₁ e t₂ r before plays
    obtain ⟨reply, only⟩ := single plays
    obtain ⟨rfl, tail⟩ := List.append_eq_singleton_iff.1 only |>.resolve_right (by simp)
    obtain ⟨rfl, -⟩ := List.cons.inj tail
    rw [List.append_nil]
    exact h past before
  leaves before yields := ⟨_, _, rfl, before, yields⟩

/-- A sync creates its object after it has found none, and replaces what it has found. -/
theorem sync {owner : OwnerReference} {mode : SyncMode} {o : Object} (look : G.Frees (.get o.address))
    (create : ∀ past, P past →
      G.Allows (past ++ [⟨.get o.address, .ok none⟩]) (.create (o.ownedBy owner)))
    (apply : ∀ past found, P past → mode = .apply →
      G.Allows (past ++ [⟨.get o.address, .ok (some found)⟩]) (.apply (o.ownedBy owner))) :
    (sync owner mode o).Heeds G P ((sync owner mode o).Leaves P) := by
  have lookup : (Attempt.get o.address).Heeds G P ((Attempt.get o.address).Leaves P) :=
    of_single (fun plays => ⟨_, (Program.plays_perform (c := .get o.address) rfl).1 plays⟩)
      fun past _ => look past
  refine (bind (R := fun _ _ => True) ((Object.address_ownedBy owner o).symm ▸ lookup)
    fun found => ?_).played
  cases found with
  | none =>
    refine bind (of_single (fun plays => ⟨_, (Program.plays_perform (c := .create _) rfl).1 plays⟩) ?_)
      fun _ => pure _ fun _ _ => trivial
    rintro _ ⟨past, t, rfl, before, yields⟩
    obtain rfl := yields_get.1 yields
    rw [Object.address_ownedBy]
    exact create past before
  | some old =>
    cases mode with
    | createOnly => exact pure _ fun _ _ => trivial
    | apply =>
      refine bind (of_single (fun plays => ⟨_, (Program.plays_perform (c := .apply _) rfl).1 plays⟩) ?_)
        fun _ => pure _ fun _ _ => trivial
      rintro _ ⟨past, t, rfl, before, yields⟩
      obtain rfl := yields_get.1 yields
      rw [Object.address_ownedBy]
      exact apply past old before rfl

/-- Where what is caught is allowed at any time, only the remedy has to keep to what is allowed. -/
theorem tryCatch {g : Failure → Attempt α} (hx : x.Only G.Frees)
    (lasts : ∀ past t, P past → P (past ++ t)) (hg : ∀ e, (g e).Heeds G P fun _ => P) :
    (MonadExcept.tryCatch x g).Heeds G P fun _ => P where
  allowed := by
    intro past t₁ e t₂ r before plays
    have remedy {u₁ u₂ : List Event} {cause : Failure} (split : t₁ ++ e :: t₂ = u₁ ++ u₂)
        (failed : x.Fails u₁ cause) (plays : (g cause).run.Plays u₂ r) :
        G.Allows (past ++ t₁) e.call := by
      rcases split_of_append split with ⟨v, rfl⟩ | ⟨v, rfl, rfl⟩
      · exact Program.Plays.only failed hx e (by simp) _
      · rw [← List.append_assoc]
        exact (hg cause).allowed (lasts _ _ before) plays
    cases r with
    | ok a =>
      rcases yields_tryCatch.1 plays with yields | ⟨u₁, cause, u₂, split, failed, rest⟩
      · exact Program.Plays.only yields hx e (by simp) _
      · exact remedy split failed rest
    | error cause' =>
      obtain ⟨u₁, cause, u₂, split, failed, rest⟩ := fails_tryCatch.1 plays
      exact remedy split failed rest
  leaves before _ := lasts _ _ before

end Heeds

theorem Heeds.holds {x : Attempt Outcome} {Q : Outcome → List Event → Prop}
    (h : x.Heeds G (fun _ => True) Q) {t : List Event} {o : Outcome} (plays : (settle x).Plays t o) :
    G.Holds t := by
  rintro t₁ e t₂ rfl
  rcases plays_settle.1 plays with yields | ⟨cause, failed, -⟩
  · show G.Allows ([] ++ t₁) e.call
    exact h.allowed trivial yields
  · show G.Allows ([] ++ t₁) e.call
    exact h.allowed trivial failed

end Attempt

section Turns

variable {ι : Type} [DecidableEq ι]

theorem own_append (i : ι) (t u : List (ι × Event)) : own i (t ++ u) = own i t ++ own i u :=
  List.filterMap_append

/-- Where a player has its turn, its own events have a split. -/
theorem own_split (i : ι) (e : Event) (t u : List (ι × Event)) :
    own i (t ++ (i, e) :: u) = own i t ++ e :: own i u := by
  rw [own_append, own_cons, if_pos rfl]

/-- Programs that have come to some point of their runs: each has played its own events, and could go on
to its end. -/
def Underway {α : Type} (ps : ι → Program α) (t : List (ι × Event)) : Prop :=
  ∀ i, ∃ u a, (ps i).Plays (own i t ++ u) a

/-- Programs that take turns in a world are underway all the time. -/
theorem Simulation.World.underway_turns {α : Type} (schedule : List ι) (ps : ι → Program α)
    (w : World) : Underway ps (w.turns schedule ps).2.1 := fun i =>
  ⟨_, _, plays_turns schedule ps w (World.plays_trace w ((w.turns schedule ps).1 i))⟩

end Turns

namespace Reconcile

/-- What can run: a pass over the control plane of a name, or a part of a pass over a control plane. -/
inductive Runner
  | pass (ns name : String)
  | router (cp : ControlPlane)
  | controller (cp : ControlPlane)
  | portManager (cp : ControlPlane)

namespace Runner

def program (settings : Setup) : Runner → Program Outcome
  | pass ns name => dispatch settings ns name
  | router cp => Reconcile.router settings cp
  | controller cp => Reconcile.controller settings cp
  | portManager cp => Reconcile.portManager settings cp

/-- The control plane that a runner is about: that of a pass is the one that it has found. -/
def IsAbout (t : List Event) (cp : ControlPlane) : Runner → Prop
  | pass ns name => ⟨.fetch ns name, .ok (some cp)⟩ ∈ t
  | router cp' => cp = cp'
  | controller cp' => cp = cp'
  | portManager cp' => cp = cp'

end Runner

/-- Whether all parts of passes keep to what is allowed for their control planes. -/
structure Heeded (settings : Setup) (G : ControlPlane → Guard) : Prop where
  router : ∀ {cp t o}, (router settings cp).Plays t o → (G cp).Holds t
  controller : ∀ {cp t o}, (controller settings cp).Plays t o → (G cp).Holds t
  portManager : ∀ {cp t o}, (portManager settings cp).Plays t o → (G cp).Holds t

variable {settings : Setup} {G : ControlPlane → Guard} {cp : ControlPlane} {ns name : String}
  {o : Outcome} {e : Event} {t t₁ t₂ : List Event}

theorem Heeded.parts (h : Heeded settings G) (p : Parts settings cp t) : (G cp).Holds t :=
  .interleaving p.apart (h.router p.playsRouter)
    (.interleaving p.othersApart (h.controller p.playsController) (h.portManager p.playsPortManager))

/-- A pass keeps to what is allowed for the control plane that it has found, apart from bookkeeping. -/
theorem Heeded.pass (h : Heeded settings G)
    (plays : (dispatch settings ns name).Plays (t₁ ++ e :: t₂) o) :
    e.call.isBookkeeping ∨ ∃ cp, ⟨.fetch ns name, .ok (some cp)⟩ ∈ t₁ ∧ (G cp).Allows t₁ e.call := by
  rcases (visits_of_plays plays).idle_or_pass with idle | ⟨⟨p⟩⟩
  · exact .inl (idle e (by simp)).1
  obtain ⟨r, around, bookkept⟩ := p.around
  rcases around.position with ⟨m₁, m₂, middle, sub⟩ | ⟨r₁, r₂, rfl, -⟩
  · have allowed := (G p.cp).lasts sub (h.parts p.parts m₁ e m₂ middle)
    -- The lookup of the control plane comes before all else.
    cases t₁ with
    | nil =>
      exact .inl (by rw [(List.cons.inj p.eq).1]; rfl)
    | cons x t₁ =>
      exact .inr ⟨p.cp, List.mem_cons.2 (.inl (List.cons.inj p.eq).1.symm), allowed⟩
  · exact .inl (bookkept e (by simp))

theorem Heeded.runner (h : Heeded settings G) {r : Runner}
    (plays : (r.program settings).Plays (t₁ ++ e :: t₂) o) :
    e.call.isBookkeeping ∨ ∃ cp, r.IsAbout t₁ cp ∧ (G cp).Allows t₁ e.call := by
  cases r with
  | pass ns name => exact h.pass plays
  | router cp => exact .inr ⟨cp, rfl, h.router plays t₁ e t₂ rfl⟩
  | controller cp => exact .inr ⟨cp, rfl, h.controller plays t₁ e t₂ rfl⟩
  | portManager cp => exact .inr ⟨cp, rfl, h.portManager plays t₁ e t₂ rfl⟩

/-- Whoever stores an object at any moment was allowed to after what it had seen itself. -/
theorem Heeded.underway {ι : Type} [DecidableEq ι] {runners : ι → Runner} {i : ι}
    {t u : List (ι × Event)} {a : Address} {new : Object} (h : Heeded settings G)
    (underway : Underway (fun i => (runners i).program settings) (t ++ (i, e) :: u))
    (stores : e.storedAt? a = some new) :
    ∃ cp, (runners i).IsAbout (own i t) cp ∧ (G cp).Allows (own i t) e.call := by
  obtain ⟨v, o, plays⟩ := underway i
  rw [own_split, List.append_assoc, List.cons_append] at plays
  rcases h.runner plays with bookkept | allowed
  · rw [storedAt_of_bookkeeping bookkept] at stores
    cases stores
  · exact allowed

end Reconcile

end EdgePlane
