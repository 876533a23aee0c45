import EdgePlane.Proofs.Accounts
import EdgePlane.Proofs.StoredObject
import EdgePlane.Simulation.World

/-!
# Traces in a world

A run of a program in a world plays a trace, and the objects and interfaces of the world are seen in it:
each of them admits the trace and ends as the trace leaves it. In a world without faults calls fail only
for a reason.
-/

namespace EdgePlane

/-- Whether a call is answered by the management interface or replaces pods. -/
def Call.isTalk : Call → Bool
  | .status _ => true
  | .signUp _ _ => true
  | .logIn _ _ => true
  | .changePassword _ _ _ => true
  | .putRouter _ _ _ => true
  | .restart _ _ => true
  | _ => false

namespace Simulation

open Kubernetes Management

namespace World

/-- The calls of a run with their answers. -/
def trace {α : Type} (w : World) (p : Program α) : List Event := p.trace answer w

theorem plays_trace {α : Type} (w : World) (p : Program α) : p.Plays (w.trace p) (w.run p).1 :=
  Program.plays_trace answer p w

theorem run_bind {α β : Type} (w : World) (p : Program α) (f : α → Program β) :
    w.run (p >>= f) = (w.run p).2.run (f (w.run p).1) := by
  induction p generalizing w with
  | pure a => rfl
  | call c k ih => exact ih (answer c w).1 (answer c w).2

theorem trace_bind {α β : Type} (w : World) (p : Program α) (f : α → Program β) :
    w.trace (p >>= f) = w.trace p ++ (w.run p).2.trace (f (w.run p).1) := by
  induction p generalizing w with
  | pure a => rfl
  | call c k ih =>
    have rest := ih (answer c w).1 (answer c w).2
    change Program.trace answer (.call c fun r => (k r) >>= f) w =
      Program.trace answer (.call c k) w ++ _
    rw [Program.trace, Program.trace]
    cases c.isSleep with
    | false => exact congrArg (List.cons _) rest
    | true => exact rest

/-- `w.Follows t w'`: the world `w` answers the calls of `t` as they were answered there, and has become
`w'` by then. Between the calls time may pass. The trace may be that of one program, or of several that
take turns. -/
inductive Follows : World → List Event → World → Prop
  | done (w : World) : Follows w [] w
  | call {w w' : World} {t : List Event} (c : Call) (awake : c.isSleep = false)
    (rest : Follows (answer c w).2 t w') : Follows w (⟨c, (answer c w).1⟩ :: t) w'
  | sleep {w w' : World} {t : List Event} (d : Duration) (rest : Follows (answer (.sleep d) w).2 t w') :
    Follows w t w'

/-- A world follows the trace of a run in it. -/
theorem follows_trace {α : Type} (w : World) (p : Program α) :
    w.Follows (w.trace p) (w.run p).2 := by
  induction p generalizing w with
  | pure a => exact .done w
  | call c k ih =>
    have rest : (answer c w).2.Follows ((k (answer c w).1).trace answer (answer c w).2)
        ((k (answer c w).1).run answer (answer c w).2).2 := ih _ _
    rw [trace, Program.trace, run, Program.run]
    cases awake : c.isSleep with
    | false => exact .call c awake rest
    | true =>
      obtain ⟨d, rfl⟩ := Call.eq_sleep awake
      exact .sleep d rest

namespace Follows

variable {w w' : World} {t : List Event}

/-- What the calls of a trace keep, and sleeping too, a world that follows it keeps. -/
theorem keeps {I : World → Prop} (h : w.Follows t w')
    (asleep : ∀ d w, I w → I (answer (.sleep d) w).2)
    (step : ∀ e ∈ t, ∀ w, I w → I (answer e.call w).2) (hw : I w) : I w' := by
  induction h with
  | done w => exact hw
  | @call w w' t c awake _ ih =>
    exact ih (fun e he => step e (by simp [he])) (step ⟨c, (answer c w).1⟩ (by simp) w hw)
  | sleep d _ ih => exact ih step (asleep d _ hw)

/-- What each answer makes of a part of the world, a trace that is followed makes of it. -/
theorem seen {σ : Type} {P : Part σ} (view : World → σ) (I : World → Prop)
    (asleep : ∀ d r, P.Ignores ⟨.sleep d, r⟩)
    (step : ∀ c w, I w → I (answer c w).2 ∧ P.Fits (view w) ⟨c, (answer c w).1⟩ ∧
      view (answer c w).2 = P.after (view w) ⟨c, (answer c w).1⟩)
    (h : w.Follows t w') (hw : I w) : P.Admits (view w) t ∧ view w' = P.run (view w) t := by
  induction h with
  | done w => exact ⟨trivial, rfl⟩
  | @call w w' t c awake _ ih =>
    obtain ⟨inv, fits, now⟩ := step c w hw
    obtain ⟨admitted, final⟩ := ih inv
    rw [now] at admitted final
    exact ⟨⟨fits, admitted⟩, final⟩
  | @sleep w w' t d _ ih =>
    obtain ⟨inv, -, now⟩ := step (.sleep d) w hw
    rw [asleep d] at now
    obtain ⟨admitted, final⟩ := ih inv
    rw [now] at admitted final
    exact ⟨admitted, final⟩

end Follows

theorem announce_rest (w : World) (c : Call) :
    (w.announce c).2.cluster = w.cluster ∧ (w.announce c).2.apis = w.apis ∧
      (w.faults = [] → (w.announce c).1 = none ∧ (w.announce c).2.faults = []) := by
  unfold announce
  split
  · simp
  · simp +contextual [Fault.trigger]

/-- A call of the cluster fails because of a fault and has no effect, or is made. -/
theorem askCluster_cases {α : Type} (w : World) (c : Call)
    (f : Cluster → Except Failure α × Cluster) :
    (w.askCluster c f).2.apis = w.apis ∧ (w.faults = [] → (w.askCluster c f).2.faults = []) ∧
      ((w.faults ≠ [] ∧ (∃ failure, (w.askCluster c f).1 = .error failure) ∧
          (w.askCluster c f).2.cluster = w.cluster) ∨
        (w.askCluster c f).1 = (f w.cluster).1 ∧ (w.askCluster c f).2.cluster = (f w.cluster).2) := by
  obtain ⟨hcluster, hapis, hfaults⟩ := announce_rest w c
  unfold askCluster
  cases h : w.announce c with
  | mk fired w' =>
    simp only [h] at hcluster hapis hfaults
    cases fired with
    | some fault =>
      have : w.faults ≠ [] := fun none => nomatch (hfaults none).1
      simp [hcluster, hapis, this]
    | none => simp +contextual [hcluster, hapis, hfaults]

/-- A call of an interface fails because of a fault and has no effect, or is made. -/
theorem askApi_cases {α : Type} (w : World) (c : Call) (url : String)
    (f : ApiServer → Except ApiError α × ApiServer) :
    (w.askApi c url f).2.cluster = w.cluster ∧ (w.faults = [] → (w.askApi c url f).2.faults = []) ∧
      ((w.faults ≠ [] ∧ (∃ e, (w.askApi c url f).1 = .error e) ∧
          ∀ u, (w.askApi c url f).2.api u = w.api u) ∨
        (w.askApi c url f).1 = (f (w.api url)).1 ∧
          ∀ u, (w.askApi c url f).2.api u = if u = url then (f (w.api url)).2 else w.api u) := by
  obtain ⟨hcluster, hapis, hfaults⟩ := announce_rest w c
  unfold askApi
  cases h : w.announce c with
  | mk fired w' =>
    simp only [h] at hcluster hapis hfaults
    cases fired with
    | some fault =>
      have : w.faults ≠ [] := fun none => nomatch (hfaults none).1
      simp [hcluster, hapis, this, api]
    | none =>
      have insert (s : ApiServer) (u : String) :
          ((w.apis.insert url s).get? u).getD {} = if u = url then s else w.api u := by
        rw [Dict.get?_insert]
        split <;> rfl
      simp +contextual [hcluster, hapis, hfaults, api, setApi, insert]

/-- Preparing a client reaches neither the cluster nor an interface. -/
theorem openClient_rest (w : World) (url : String) :
    (w.openClient url).2.cluster = w.cluster ∧ (w.openClient url).2.apis = w.apis ∧
      (w.faults = [] → (w.openClient url).2.faults = []) := by
  have rest := announce_rest w (.connect url)
  unfold openClient
  split
  · rename_i h
    rw [h] at rest
    exact ⟨rest.1, rest.2.1, fun none => (rest.2.2 none).2⟩
  · rename_i h
    rw [h] at rest
    exact ⟨rest.1, rest.2.1, fun none => (rest.2.2 none).2⟩

theorem keysDrawn_announce (w : World) (c : Call) : (w.announce c).2.keysDrawn = w.keysDrawn := by
  unfold announce
  split <;> rfl

theorem keysDrawn_askCluster {α : Type} (w : World) (c : Call)
    (f : Cluster → Except Failure α × Cluster) : (w.askCluster c f).2.keysDrawn = w.keysDrawn := by
  rw [← keysDrawn_announce w c, askCluster]
  split <;> simp [*]

theorem keysDrawn_askApi {α : Type} (w : World) (c : Call) (url : String)
    (f : ApiServer → Except ApiError α × ApiServer) :
    (w.askApi c url f).2.keysDrawn = w.keysDrawn := by
  rw [← keysDrawn_announce w c, askApi]
  split <;> simp [*, setApi]

theorem keysDrawn_openClient (w : World) (url : String) :
    (w.openClient url).2.keysDrawn = w.keysDrawn := by
  rw [← keysDrawn_announce w (.connect url), openClient]
  split <;> simp [*]

theorem wait_rest (w : World) (d : Duration) :
    (w.wait d).2.cluster = w.cluster ∧ (w.wait d).2.apis = w.apis ∧
      (w.wait d).2.faults = w.faults := by
  unfold wait
  split <;> exact ⟨rfl, rfl, rfl⟩

/-- What a call changes that the cluster answers: only a restart restarts anything, and only a write of
conditions changes a control plane. -/
structure Reaches (c : Call) {α : Type} (f : Cluster → Except Failure α × Cluster) : Prop where
  restarts : (∀ ns name, c ≠ .restart ns name) → ∀ c, (f c).2.restarts = c.restarts
  controlPlanes : (∀ cp conditions, c ≠ .record cp conditions) →
    ∀ c, (f c).2.controlPlanes = c.controlPlanes

/-- A call is answered by the cluster, by an interface, or by neither of them. -/
theorem answer_cases (c : Call) (w : World) :
    (∃ (α : Type) (f : Cluster → Except Failure α × Cluster),
        (answer c w).2 = (w.askCluster c f).2 ∧ Reaches c f) ∨
      (∃ (α : Type) (url : String) (f : ApiServer → Except ApiError α × ApiServer),
        (answer c w).2 = (w.askApi c url f).2 ∧ c.isTalk) ∨
      (answer c w).2.cluster = w.cluster ∧ (answer c w).2.apis = w.apis ∧
        (w.faults = [] → (answer c w).2.faults = []) ∧
        (c ≠ .drawKey → (answer c w).2.keysDrawn = w.keysDrawn) := by
  cases c with
  | get _ => exact .inl ⟨_, _, rfl, fun _ _ => rfl, fun _ _ => rfl⟩
  | create o =>
    have made (c : Cluster) : (c.create o).2.restarts = c.restarts ∧
        (c.create o).2.controlPlanes = c.controlPlanes := by
      unfold Cluster.create
      split <;> exact ⟨rfl, rfl⟩
    exact .inl ⟨_, _, rfl, fun _ c => (made c).1, fun _ c => (made c).2⟩
  | apply _ => exact .inl ⟨_, _, rfl, fun _ _ => rfl, fun _ _ => rfl⟩
  | fetch _ _ => exact .inl ⟨_, _, rfl, fun _ _ => rfl, fun _ _ => rfl⟩
  | restart ns name =>
    refine .inl ⟨_, _, rfl, fun other => absurd rfl (other ns name), fun _ c => ?_⟩
    dsimp only [Cluster.restart]
    split <;> rfl
  | record cp conditions =>
    refine .inl ⟨_, _, rfl, fun _ c => ?_, fun other => absurd rfl (other cp conditions)⟩
    dsimp only [Cluster.record]
    split <;> rfl
  | status _ => exact .inr (.inl ⟨_, _, _, rfl, rfl⟩)
  | signUp _ _ => exact .inr (.inl ⟨_, _, _, rfl, rfl⟩)
  | logIn _ _ => exact .inr (.inl ⟨_, _, _, rfl, rfl⟩)
  | changePassword _ _ _ => exact .inr (.inl ⟨_, _, _, rfl, rfl⟩)
  | putRouter _ _ _ => exact .inr (.inl ⟨_, _, _, rfl, rfl⟩)
  | connect url =>
    obtain ⟨cluster, apis, faults⟩ := openClient_rest w url
    exact .inr (.inr ⟨cluster, apis, faults, fun _ => keysDrawn_openClient w url⟩)
  | sleep d =>
    obtain ⟨cluster, apis, faults⟩ := wait_rest w d
    refine .inr (.inr ⟨cluster, apis, faults.trans, fun _ => ?_⟩)
    dsimp only [answer, wait]
    split <;> rfl
  | now => exact .inr (.inr ⟨rfl, rfl, id, fun _ => rfl⟩)
  | drawKey => exact .inr (.inr ⟨rfl, rfl, id, fun other => absurd rfl other⟩)
  | forget _ => exact .inr (.inr ⟨rfl, rfl, id, fun _ => rfl⟩)

/-- Without faults to begin with, no call brings one about. -/
theorem faults_answer (c : Call) (w : World) (h : w.faults = []) : (answer c w).2.faults = [] := by
  rcases answer_cases c w with ⟨α, f, same, -⟩ | ⟨α, url, f, same, -⟩ | ⟨-, -, faults, -⟩
  · rw [same]
    exact (askCluster_cases w c f).2.1 h
  · rw [same]
    exact (askApi_cases w c url f).2.1 h
  · exact faults h

/-- Only drawing a key changes how many were drawn. -/
theorem keysDrawn_answer {c : Call} (h : c ≠ .drawKey) (w : World) :
    (answer c w).2.keysDrawn = w.keysDrawn := by
  rcases answer_cases c w with ⟨α, f, same, -⟩ | ⟨α, url, f, same, -⟩ | ⟨-, -, -, keys⟩
  · rw [same, keysDrawn_askCluster]
  · rw [same, keysDrawn_askApi]
  · exact keys h

end World

namespace Cluster

/-- An object is created where there is none. -/
theorem create_cases (c : Cluster) (o : Object) :
    ((c.object? o.address).isSome ∧ (∃ failure, (c.create o).1 = .error failure) ∧
        (c.create o).2 = c) ∨
      (c.object? o.address = none ∧ (c.create o).1 = .ok () ∧
        ∀ a, (c.create o).2.object? a = if a = o.address then some o else c.object? a) := by
  unfold create
  cases h : c.object? o.address with
  | some old => simp
  | none => simp [object?, insert, Dict.get?_insert]

theorem object?_apply (c : Cluster) (o : Object) (a : Address) :
    (c.apply o).2.object? a =
      if a = o.address then some (o.keepingStatus (c.object? o.address)) else c.object? a := by
  simp [apply, object?, Dict.get?_insert]

theorem object?_restart (c : Cluster) (ns name : String) (a : Address) :
    (c.restart ns name).2.object? a = c.object? a := by
  unfold restart
  split <;> rfl

theorem object?_record (c : Cluster) (cp : ControlPlane)
    (conditions : List ControlPlane.Condition) (a : Address) :
    (c.record cp conditions).2.object? a = c.object? a := by
  unfold record
  split <;> rfl

/-- The answer of a cluster fits the object at an address and tells what becomes of it. -/
structure Answers (a : Address) (c : Cluster) (e : Event) (c' : Cluster) : Prop where
  fits : (Part.reliableObjectAt a).Fits (c.object? a) e
  object : c'.object? a = (Part.objectAt a).after (c.object? a) e

variable (a : Address) (c : Cluster)

theorem answers_create (o : Object) : c.Answers a ⟨.create o, (c.create o).1⟩ (c.create o).2 := by
  obtain ⟨isSome, ⟨failure, error⟩, kept⟩ | ⟨isNone, done, now⟩ := c.create_cases o
  · rw [error, kept]
    exact ⟨⟨trivial, fun h => h ▸ isSome⟩, rfl⟩
  · rw [done]
    refine ⟨⟨fun h => h ▸ isNone, trivial⟩, ?_⟩
    rw [now, Part.objectAt_after rfl]
    by_cases h : o.address = a
    · subst h
      simp [isNone]
    · simp [h, Ne.symm h]

theorem answers_apply (o : Object) : c.Answers a ⟨.apply o, (c.apply o).1⟩ (c.apply o).2 := by
  refine ⟨⟨trivial, trivial⟩, ?_⟩
  rw [object?_apply, apply, Part.objectAt_after rfl]
  by_cases h : o.address = a
  · subst h
    simp
  · simp [h, Ne.symm h]

end Cluster

namespace World

/-- What an answer makes of the object at an address is what the event says. -/
structure AnswersAt (a : Address) (w : World) (e : Event) (w' : World) : Prop where
  fits : (Part.objectAt a).Fits (w.cluster.object? a) e
  object : w'.cluster.object? a = (Part.objectAt a).after (w.cluster.object? a) e
  reliable : w.faults = [] → (Part.reliableObjectAt a).Fits (w.cluster.object? a) e

section Objects

variable {a : Address} {w w' : World} {e : Event}

theorem answersAt_of_cluster (same : w'.cluster = w.cluster)
    (fits : (Part.reliableObjectAt a).Fits (w.cluster.object? a) e) (h : e.stored? = none) :
    w.AnswersAt a e w' where
  fits := fits.1
  object := by rw [same, Part.objectAt_ignores (by simp [Event.storedAt?, h])]
  reliable _ := fits

/-- A call of the cluster is answered by a fault or by the cluster. -/
theorem answersAt_askCluster {α : Type} {c : Call} {f : Cluster → Except Failure α × Cluster}
    (event : Except Failure α → Event)
    (failed : ∀ e, (Part.objectAt a).Fits (w.cluster.object? a) (event (.error e)) ∧
      (event (.error e)).stored? = none)
    (made : ∀ c : Cluster, c.Answers a (event (f c).1) (f c).2) :
    w.AnswersAt a (event (w.askCluster c f).1) (w.askCluster c f).2 := by
  obtain ⟨-, -, ⟨faults, ⟨e, reply⟩, same⟩ | ⟨reply, now⟩⟩ := askCluster_cases w c f
  · obtain ⟨fits, h⟩ := failed e
    rw [reply]
    exact ⟨fits, by rw [same, Part.objectAt_ignores (by simp [Event.storedAt?, h])],
      fun none => absurd none faults⟩
  · obtain ⟨fits, object⟩ := made w.cluster
    rw [reply]
    exact ⟨fits.1, by rw [now, object], fun _ => fits⟩

theorem answersAt_answer (a : Address) (c : Call) (w : World) :
    w.AnswersAt a ⟨c, (answer c w).1⟩ (answer c w).2 := by
  cases c with
  | get b =>
    exact answersAt_askCluster (⟨.get b, ·⟩) (fun _ => ⟨trivial, rfl⟩) fun c =>
      ⟨⟨fun h => h ▸ rfl, trivial⟩, rfl⟩
  | create o =>
    exact answersAt_askCluster (⟨.create o, ·⟩) (fun _ => ⟨trivial, rfl⟩) (·.answers_create a o)
  | apply o =>
    exact answersAt_askCluster (⟨.apply o, ·⟩) (fun _ => ⟨trivial, rfl⟩) (·.answers_apply a o)
  | restart ns name =>
    exact answersAt_askCluster (⟨.restart ns name, ·⟩) (fun _ => ⟨trivial, rfl⟩) fun c =>
      ⟨⟨trivial, trivial⟩, c.object?_restart ns name a⟩
  | fetch ns name =>
    exact answersAt_askCluster (⟨.fetch ns name, ·⟩) (fun _ => ⟨trivial, rfl⟩) fun c =>
      ⟨⟨trivial, trivial⟩, rfl⟩
  | record cp conditions =>
    exact answersAt_askCluster (⟨.record cp conditions, ·⟩) (fun _ => ⟨trivial, rfl⟩) fun c =>
      ⟨⟨trivial, trivial⟩, c.object?_record cp conditions a⟩
  | connect url => exact answersAt_of_cluster (openClient_rest w url).1 ⟨trivial, trivial⟩ rfl
  | sleep d => exact answersAt_of_cluster (wait_rest w d).1 ⟨trivial, trivial⟩ rfl
  | now => exact answersAt_of_cluster rfl ⟨trivial, trivial⟩ rfl
  | drawKey => exact answersAt_of_cluster rfl ⟨trivial, trivial⟩ rfl
  | forget key => exact answersAt_of_cluster rfl ⟨trivial, trivial⟩ rfl
  | status url => exact answersAt_of_cluster (askApi_cases w _ _ _).1 ⟨trivial, trivial⟩ rfl
  | signUp url r => exact answersAt_of_cluster (askApi_cases w _ _ _).1 ⟨trivial, trivial⟩ rfl
  | logIn url r => exact answersAt_of_cluster (askApi_cases w _ _ _).1 ⟨trivial, trivial⟩ rfl
  | changePassword url token r =>
    exact answersAt_of_cluster (askApi_cases w _ _ _).1 ⟨trivial, trivial⟩ rfl
  | putRouter url token router =>
    exact answersAt_of_cluster (askApi_cases w _ _ _).1 ⟨trivial, trivial⟩ rfl

end Objects

/-- Whom the interface at a URL knows. -/
def accounts (w : World) (url : String) : Accounts := ⟨(w.api url).users, (w.api url).tokens⟩

end World

namespace ApiServer

/-- The answer of an interface at a URL fits whom it knows and tells what becomes of it. -/
structure Answers (url : String) (s : ApiServer) (e : Event) (s' : ApiServer) : Prop where
  fits : (Part.reliableAccountsAt url).Fits ⟨s.users, s.tokens⟩ e
  accounts : ⟨s'.users, s'.tokens⟩ = (Part.accountsAt url).after ⟨s.users, s.tokens⟩ e
  router : s'.router = (Part.routerAt url).after s.router e

variable (s : ApiServer) (url : String)

theorem answers_status : s.Answers url ⟨.status url, (s.status url).1⟩ (s.status url).2 := by
  unfold status
  dsimp only
  split <;> exact ⟨⟨trivial, trivial⟩, rfl, rfl⟩

theorem answers_signUp (r : SignUp) :
    s.Answers url ⟨.signUp url r, (s.signUp url r).1⟩ (s.signUp url r).2 := by
  unfold signUp
  dsimp only
  split
  · exact ⟨⟨trivial, trivial⟩, rfl, rfl⟩
  · split
    · exact ⟨⟨trivial, trivial⟩, rfl, rfl⟩
    · rename_i fresh
      have : s.users.get? r.email = none := by simpa [Dict.contains] using fresh
      exact ⟨⟨fun _ => this, trivial⟩, by simp [addUser], rfl⟩

theorem answers_logIn (r : LogIn) :
    s.Answers url ⟨.logIn url r, (s.logIn r).1⟩ (s.logIn r).2 := by
  unfold logIn
  dsimp only
  split
  · rename_i right
    exact ⟨⟨fun _ => right, trivial⟩, by simp, rfl⟩
  · rename_i wrong
    exact ⟨⟨trivial, fun _ => wrong⟩, rfl, rfl⟩

theorem answers_changePassword (token : String) (r : PasswordChange) :
    s.Answers url ⟨.changePassword url token r, (s.changePassword token r).1⟩
      (s.changePassword token r).2 := by
  unfold changePassword
  cases holder : s.tokens.get? token with
  | none => exact ⟨⟨trivial, trivial⟩, rfl, rfl⟩
  | some email =>
    dsimp only
    split
    · rename_i right
      exact ⟨⟨fun _ => ⟨email, holder, right⟩, trivial⟩, by simp [Accounts.change, addUser, holder],
        rfl⟩
    · exact ⟨⟨trivial, trivial⟩, rfl, rfl⟩

theorem answers_putRouter (token : String) (router : DefaultRouter) :
    s.Answers url ⟨.putRouter url token router, (s.putRouter token router).1⟩
      (s.putRouter token router).2 := by
  unfold putRouter
  split
  · exact ⟨⟨trivial, trivial⟩, rfl, rfl⟩
  · exact ⟨⟨trivial, trivial⟩, rfl, by simp [Part.routerAt]⟩

end ApiServer

namespace World

/-- What an answer makes of the accounts of an interface, and of its router, is what the event says. -/
structure Answers (url : String) (w : World) (e : Event) (w' : World) : Prop where
  fits : (Part.accountsAt url).Fits (w.accounts url) e
  accounts : w'.accounts url = (Part.accountsAt url).after (w.accounts url) e
  router : (w'.api url).router = (Part.routerAt url).after (w.api url).router e
  reliable : w.faults = [] → (Part.reliableAccountsAt url).Fits (w.accounts url) e

section Interfaces

variable {url : String} {w w' : World} {e : Event}

theorem answers_of_not_account (same : w'.api url = w.api url)
    (h : e.call.isAccountAt url = false) : w.Answers url e w' where
  fits := (Part.reliableAccountsAt_fits h _).1
  accounts := by rw [Part.accountsAt_ignores h, World.accounts, World.accounts, same]
  router := by rw [Part.routerAt_ignores h, same]
  reliable _ := Part.reliableAccountsAt_fits h _

theorem answers_of_apis (same : w'.apis = w.apis) (h : e.call.isAccountAt url = false) :
    w.Answers url e w' :=
  answers_of_not_account (by rw [api, same, api]) h

/-- A question to an interface is answered by a fault, by another interface, or by this one. -/
theorem answers_askApi {α : Type} {u : String} {c : Call}
    {f : ApiServer → Except ApiError α × ApiServer} (event : Except ApiError α → Event)
    (failed : ∀ e, (Part.accountsAt url).Fits (w.accounts url) (event (.error e)) ∧
      (Part.accountsAt url).Ignores (event (.error e)) ∧
      (Part.routerAt url).Ignores (event (.error e)))
    (elsewhere : u ≠ url → ∀ r, (event r).call.isAccountAt url = false)
    (made : u = url → ∀ s : ApiServer, s.Answers url (event (f s).1) (f s).2) :
    w.Answers url (event (w.askApi c u f).1) (w.askApi c u f).2 := by
  obtain ⟨-, -, ⟨faults, ⟨e, reply⟩, now⟩ | ⟨reply, now⟩⟩ := askApi_cases w c u f
  · obtain ⟨fits, accounts, router⟩ := failed e
    rw [reply]
    exact ⟨fits, by rw [accounts, World.accounts, World.accounts, now], by rw [router, now],
      fun none => absurd none faults⟩
  · by_cases here : u = url
    · obtain ⟨fits, accounts, router⟩ := made here (w.api u)
      subst here
      rw [reply]
      exact ⟨fits.1, by rw [World.accounts, now, if_pos rfl, accounts, World.accounts],
        by rw [now, if_pos rfl, router], fun _ => fits⟩
    · exact answers_of_not_account (by rw [now, if_neg (Ne.symm here)]) (elsewhere here _)

theorem answers_answer (url : String) (c : Call) (w : World) :
    w.Answers url ⟨c, (answer c w).1⟩ (answer c w).2 := by
  cases c with
  | connect u => exact answers_of_apis (openClient_rest w u).2.1 rfl
  | sleep d => exact answers_of_apis (wait_rest w d).2.1 rfl
  | now => exact answers_of_apis rfl rfl
  | drawKey => exact answers_of_apis rfl rfl
  | forget key => exact answers_of_apis rfl rfl
  | get a => exact answers_of_apis (askCluster_cases w (.get a) _).1 rfl
  | create o => exact answers_of_apis (askCluster_cases w (.create o) _).1 rfl
  | apply o => exact answers_of_apis (askCluster_cases w (.apply o) _).1 rfl
  | restart ns name => exact answers_of_apis (askCluster_cases w (.restart ns name) _).1 rfl
  | fetch ns name => exact answers_of_apis (askCluster_cases w (.fetch ns name) _).1 rfl
  | record cp cs => exact answers_of_apis (askCluster_cases w (.record cp cs) _).1 rfl
  | status u =>
    exact answers_askApi (⟨.status u, ·⟩) (fun _ => ⟨trivial, fun _ => rfl, fun _ => rfl⟩)
      (fun _ _ => rfl) fun here s => here ▸ s.answers_status u
  | signUp u r =>
    exact answers_askApi (⟨.signUp u r, ·⟩) (fun _ => ⟨trivial, fun _ => rfl, fun _ => rfl⟩)
      (fun there _ => decide_eq_false there) fun here s => here ▸ s.answers_signUp u r
  | logIn u r =>
    exact answers_askApi (⟨.logIn u r, ·⟩) (fun _ => ⟨trivial, fun _ => rfl, fun _ => rfl⟩)
      (fun there _ => decide_eq_false there) fun here s => here ▸ s.answers_logIn u r
  | changePassword u token r =>
    exact answers_askApi (⟨.changePassword u token r, ·⟩)
      (fun _ => ⟨trivial, fun _ => rfl, fun _ => rfl⟩)
      (fun there _ => decide_eq_false there) fun here s => here ▸ s.answers_changePassword u token r
  | putRouter u token router =>
    exact answers_askApi (⟨.putRouter u token router, ·⟩)
      (fun _ => ⟨trivial, fun _ => rfl, fun _ => rfl⟩)
      (fun there _ => decide_eq_false there) fun here s => here ▸ s.answers_putRouter u token router

end Interfaces

/-- An object is seen in a trace that is followed, and is as the trace leaves it. -/
theorem Follows.objectAt {w w' : World} {t : List Event} (h : w.Follows t w') (a : Address) :
    (Part.objectAt a).Admits (w.cluster.object? a) t ∧
      w'.cluster.object? a = (Part.objectAt a).run (w.cluster.object? a) t :=
  h.seen (·.cluster.object? a) (fun _ => True) (fun _ _ _ => rfl)
    (fun c w _ => ⟨trivial, (answersAt_answer a c w).fits, (answersAt_answer a c w).object⟩) trivial

theorem Follows.object?_of_unstored {w w' : World} {t : List Event} {a : Address} (h : w.Follows t w')
    (unstored : ∀ e ∈ t, e.storedAt? a = none) : w'.cluster.object? a = w.cluster.object? a := by
  rw [(h.objectAt a).2, Part.run_of_ignores fun e he => Part.objectAt_ignores (unstored e he)]

/-- The accounts of an interface are seen in a trace that is followed, and are as the trace leaves them. -/
theorem Follows.accountsAt {w w' : World} {t : List Event} (h : w.Follows t w') (url : String) :
    (Part.accountsAt url).Admits (w.accounts url) t ∧
      w'.accounts url = (Part.accountsAt url).run (w.accounts url) t :=
  h.seen (·.accounts url) (fun _ => True) (fun _ _ _ => rfl)
    (fun c w _ => ⟨trivial, (answers_answer url c w).fits, (answers_answer url c w).accounts⟩) trivial

/-- So is its router. -/
theorem Follows.routerAt {w w' : World} {t : List Event} (h : w.Follows t w') (url : String) :
    (w'.api url).router = (Part.routerAt url).run (w.api url).router t :=
  (h.seen (fun w => (w.api url).router) (fun _ => True) (fun _ _ _ => rfl)
    (fun c w _ => ⟨trivial, trivial, (answers_answer url c w).router⟩) trivial).2

variable {α : Type} (w : World) (p : Program α)

theorem objectAt_trace (a : Address) :
    (Part.objectAt a).Admits (w.cluster.object? a) (w.trace p) ∧
      (w.run p).2.cluster.object? a = (Part.objectAt a).run (w.cluster.object? a) (w.trace p) :=
  (w.follows_trace p).objectAt a

theorem reliableObjectAt_trace (a : Address) (h : w.faults = []) :
    (Part.reliableObjectAt a).Admits (w.cluster.object? a) (w.trace p) :=
  ((w.follows_trace p).seen (·.cluster.object? a) (·.faults = []) (fun _ _ _ => rfl)
    (fun c w none => ⟨faults_answer c w none, (answersAt_answer a c w).reliable none,
      (answersAt_answer a c w).object⟩) h).1

theorem accountsAt_trace (url : String) :
    (Part.accountsAt url).Admits (w.accounts url) (w.trace p) ∧
      (w.run p).2.accounts url = (Part.accountsAt url).run (w.accounts url) (w.trace p) :=
  (w.follows_trace p).accountsAt url

theorem reliableAccountsAt_trace (url : String) (h : w.faults = []) :
    (Part.reliableAccountsAt url).Admits (w.accounts url) (w.trace p) :=
  ((w.follows_trace p).seen (·.accounts url) (·.faults = []) (fun _ _ _ => rfl)
    (fun c w none => ⟨faults_answer c w none, (answers_answer url c w).reliable none,
      (answers_answer url c w).accounts⟩) h).1

theorem routerAt_trace (url : String) :
    ((w.run p).2.api url).router = (Part.routerAt url).run (w.api url).router (w.trace p) :=
  (w.follows_trace p).routerAt url

theorem faults_run (h : w.faults = []) : (w.run p).2.faults = [] :=
  (w.follows_trace p).keeps (fun d => faults_answer (.sleep d)) (fun e _ => faults_answer e.call) h

end World

end Simulation

end EdgePlane
