import EdgePlane.Proofs.Phases
import EdgePlane.Proofs.Standpoint
import EdgePlane.Proofs.Store
import Mathlib.Logic.Function.Basic

/-!
# Scenes

What a program that never sleeps ends in can be followed from state to state, where a state is anything
that answers calls. Programs that never sleep run one after another when they run side by side.

In a calm world no call fails but for a reason: no fault is planted, and control planes can be read and
written. What is answered there depends on the scene alone, which is all objects, interfaces and control
planes of the world. So what holds of a program in a scene holds of its runs in all calm worlds of the
scene.
-/

namespace EdgePlane

open Kubernetes Management

/-- States that answer calls. -/
class Answering (σ : Type) where
  /-- `Answers s c r s'`: in the state `s` the answer to `c` may be `r`, and `s'` is the state after it. -/
  Answers : σ → (c : Call) → c.Reply → σ → Prop

namespace Simulation

open Cluster (placeOf)

/-- A world has a single answer to every call. -/
instance : Answering World := ⟨fun w c r w' => World.answer c w = (r, w')⟩

/-- What there is to be found in a world. -/
structure Scene where
  objects : Store
  /-- The management interfaces by their URLs. -/
  apis : String → ApiServer
  /-- The control planes by namespace and name. -/
  declared : String × String → Option ControlPlane

namespace Scene

variable (s : Scene)

/-- The scene with an object put in a place. -/
def put (a : Address) (o : Object) : Scene := { s with objects := Function.update s.objects a (some o) }

/-- The scene with the interface at a URL in some state. -/
def setApi (url : String) (api : ApiServer) : Scene := { s with apis := Function.update s.apis url api }

/-- The scene with a control plane declared. -/
def declare (place : String × String) (cp : ControlPlane) : Scene :=
  { s with declared := Function.update s.declared place (some cp) }

variable {s} {a b : Address} {o : Object} {url : String} {api : ApiServer}

@[simp] theorem objects_put_self : (s.put a o).objects a = some o := Function.update_self ..

theorem objects_put_of_ne (h : b ≠ a) : (s.put a o).objects b = s.objects b :=
  Function.update_of_ne h ..

@[simp] theorem apis_setApi_self : (s.setApi url api).apis url = api := Function.update_self ..

@[simp] theorem setApi_setApi (api' : ApiServer) :
    (s.setApi url api).setApi url api' = s.setApi url api' := by
  simp [setApi]

end Scene

namespace World

/-- What there is to be found in a world. -/
def scene (w : World) : Scene := ⟨w.cluster.object?, w.api, w.cluster.controlPlanes.get?⟩

/-- Whether calls fail only for a reason. -/
structure Calm (w : World) : Prop where
  faults : w.faults = []
  reads : w.cluster.failsReads = false
  writes : w.cluster.rejectsStatus = false

variable {w : World}

/-- What a call of a calm cluster comes to. -/
theorem scene_askCluster {α : Type} (calm : w.Calm) (c : Call)
    (f : Cluster → Except Failure α × Cluster) :
    (w.askCluster c f).1 = (f w.cluster).1 ∧
      (w.askCluster c f).2.scene =
        ⟨(f w.cluster).2.object?, w.api, (f w.cluster).2.controlPlanes.get?⟩ := by
  obtain ⟨reply, cluster⟩ := askCluster_of_reliable calm.faults c f
  have apis : (w.askCluster c f).2.api = w.api :=
    funext (api_of_apis (askCluster_cases w c f).1)
  exact ⟨reply, by rw [scene, cluster, apis]⟩

/-- What a call of an interface comes to. -/
theorem scene_askApi {α : Type} (calm : w.Calm) (c : Call) (url : String)
    (f : ApiServer → Except ApiError α × ApiServer) :
    (w.askApi c url f).1 = (f (w.scene.apis url)).1 ∧
      (w.askApi c url f).2.scene = w.scene.setApi url (f (w.scene.apis url)).2 := by
  obtain ⟨reply, now⟩ := askApi_of_reliable calm.faults c url f
  have apis : (w.askApi c url f).2.api = Function.update w.api url (f (w.api url)).2 := by
    funext u
    rw [now, Function.update_apply]
  refine ⟨reply, ?_⟩
  rw [scene, (askApi_cases w c url f).1, apis]
  rfl

/-- Other calls change nothing that is to be found. -/
theorem scene_answer_of_quiet {c : Call} (stores : c.stores? = none) (talk : c.isTalk = false)
    (record : ∀ cp conditions, c ≠ .record cp conditions) : (answer c w).2.scene = w.scene := by
  have objects : (answer c w).2.cluster.object? = w.cluster.object? :=
    funext (object?_answer stores)
  have apis : (answer c w).2.api = w.api := funext (untouched_answer talk).1
  rw [scene, objects, apis, controlPlanes_answer c w record]
  rfl

/-- A calm world stays calm. -/
theorem Calm.answer (calm : w.Calm) (c : Call) : (answer c w).2.Calm := by
  have ofCluster {α : Type} {f : Cluster → Except Failure α × Cluster}
      (same : (World.answer c w).2 = (w.askCluster c f).2)
      (reads : (f w.cluster).2.failsReads = w.cluster.failsReads)
      (writes : (f w.cluster).2.rejectsStatus = w.cluster.rejectsStatus) :
      (World.answer c w).2.Calm := by
    refine ⟨faults_answer c w calm.faults, ?_, ?_⟩
    · rw [same, (askCluster_of_reliable calm.faults c f).2, reads, calm.reads]
    · rw [same, (askCluster_of_reliable calm.faults c f).2, writes, calm.writes]
  have ofRest (same : (World.answer c w).2.cluster = w.cluster) : (World.answer c w).2.Calm :=
    ⟨faults_answer c w calm.faults, by rw [same, calm.reads], by rw [same, calm.writes]⟩
  cases c with
  | get _ => exact ofCluster rfl rfl rfl
  | fetch _ _ => exact ofCluster rfl rfl rfl
  | apply _ => exact ofCluster rfl rfl rfl
  | create _ =>
    refine ofCluster rfl ?_ ?_ <;>
    · dsimp only [Cluster.create]
      split <;> rfl
  | restart _ _ =>
    refine ofCluster rfl ?_ ?_ <;>
    · dsimp only [Cluster.restart]
      split <;> rfl
  | record _ _ =>
    refine ofCluster rfl ?_ ?_ <;>
    · dsimp only [Cluster.record]
      split <;> rfl
  | connect url => exact ofRest (openClient_rest w url).1
  | status url => exact ofRest (askApi_cases w _ _ _).1
  | signUp _ _ => exact ofRest (askApi_cases w _ _ _).1
  | logIn _ _ => exact ofRest (askApi_cases w _ _ _).1
  | changePassword _ _ _ => exact ofRest (askApi_cases w _ _ _).1
  | putRouter _ _ _ => exact ofRest (askApi_cases w _ _ _).1
  | sleep d => exact ofRest (wait_rest w d).1
  | now => exact ofRest rfl
  | drawKey => exact ofRest rfl
  | forget _ => exact ofRest rfl

end World

namespace Scene

/-- `s.Answers c r s'`: in a calm world of the scene `s` the answer to `c` may be `r`, and `s'` is the
scene after it. -/
def Answers (s : Scene) (c : Call) (r : c.Reply) (s' : Scene) : Prop :=
  ∃ w : World, w.Calm ∧ w.scene = s ∧ (World.answer c w).1 = r ∧ (World.answer c w).2.scene = s'

instance : Answering Scene := ⟨Scene.Answers⟩

variable {s s' : Scene}

theorem answers_get {a : Address} {r : Except Failure (Option Object)}
    (h : s.Answers (.get a) r s') : r = .ok (s.objects a) ∧ s' = s := by
  obtain ⟨w, calm, rfl, rfl, rfl⟩ := h
  exact ⟨World.get_of_reliable calm.faults a, World.scene_answer_of_quiet rfl rfl (by simp)⟩

/-- An object is created where there is none. -/
theorem answers_create {o : Object} {r : Except Failure Unit} (missing : s.objects o.address = none)
    (h : s.Answers (.create o) r s') : r = .ok () ∧ s' = s.put o.address o := by
  obtain ⟨w, calm, rfl, rfl, rfl⟩ := h
  obtain ⟨reply, final⟩ := World.scene_askCluster calm (.create o) (·.create o)
  obtain ⟨there, -⟩ | ⟨-, done, objects⟩ := w.cluster.create_cases o
  · rw [show w.cluster.object? o.address = none from missing] at there
    cases there
  · refine ⟨reply.trans done, final.trans ?_⟩
    have objects : (w.cluster.create o).2.object? =
        Function.update w.cluster.object? o.address (some o) := by
      funext a
      rw [objects, Function.update_apply]
    have controlPlanes : (w.cluster.create o).2.controlPlanes = w.cluster.controlPlanes := by
      unfold Cluster.create
      split <;> rfl
    rw [objects, controlPlanes]
    rfl

theorem answers_apply {o : Object} {r : Except Failure Unit} (h : s.Answers (.apply o) r s') :
    r = .ok () ∧ s' = s.put o.address (o.keepingStatus (s.objects o.address)) := by
  obtain ⟨w, calm, rfl, rfl, rfl⟩ := h
  obtain ⟨reply, final⟩ := World.scene_askCluster calm (.apply o) (·.apply o)
  have objects : (w.cluster.apply o).2.object? = Function.update w.cluster.object? o.address
      (some (o.keepingStatus (w.cluster.object? o.address))) := by
    funext a
    rw [Cluster.object?_apply, Function.update_apply]
  refine ⟨reply, final.trans ?_⟩
  rw [objects]
  rfl

/-- The pods of a deployment that is there can be replaced. -/
theorem answers_restart {ns name : String} {r : Except Failure Unit}
    (there : (s.objects ⟨.deployment, ns, name⟩).isSome) (h : s.Answers (.restart ns name) r s') :
    r = .ok () ∧ s' = s := by
  obtain ⟨w, calm, rfl, rfl, rfl⟩ := h
  obtain ⟨reply, final⟩ := World.scene_askCluster calm (.restart ns name) (·.restart ns name)
  have stands : (w.cluster.object? ⟨.deployment, ns, name⟩).isNone = false :=
    Option.isNone_eq_false_iff.2 there
  have restarted : w.cluster.restart ns name =
      (.ok (), { w.cluster with restarts := w.cluster.restarts ++ [ns ++ "/" ++ name] }) := by
    rw [Cluster.restart, stands]
    rfl
  rw [restarted] at reply final
  exact ⟨reply, final⟩

theorem answers_fetch {ns name : String} {r : Except Failure (Option ControlPlane)}
    (h : s.Answers (.fetch ns name) r s') : r = .ok (s.declared (ns, name)) ∧ s' = s := by
  obtain ⟨w, calm, rfl, rfl, rfl⟩ := h
  obtain ⟨reply, final⟩ := World.scene_askCluster calm (.fetch ns name) fun c => (c.fetch ns name, c)
  refine ⟨reply.trans ?_, final⟩
  rw [Cluster.fetch, calm.reads]
  rfl

/-- The conditions of a control plane that is declared are replaced. -/
theorem answers_record {cp stored : ControlPlane} {conditions : List ControlPlane.Condition}
    {r : Except Failure Unit} (found : s.declared (placeOf cp) = some stored)
    (h : s.Answers (.record cp conditions) r s') :
    r = .ok () ∧ s' = s.declare (placeOf cp) { stored with status := some ⟨conditions⟩ } := by
  obtain ⟨w, calm, rfl, rfl, rfl⟩ := h
  obtain ⟨reply, final⟩ := World.scene_askCluster calm (.record cp conditions) (·.record cp conditions)
  have found : w.cluster.controlPlanes.get? (placeOf cp) = some stored := found
  obtain ⟨⟨e, refused⟩, -⟩ | ⟨done, written⟩ := w.cluster.record_cases cp conditions
  · simp [Cluster.record, calm.writes] at refused
  · have objects : (w.cluster.record cp conditions).2.object? = w.cluster.object? :=
      funext (w.cluster.object?_record cp conditions)
    have declared : (w.cluster.record cp conditions).2.controlPlanes.get? =
        Function.update w.cluster.controlPlanes.get? (placeOf cp)
          (some { stored with status := some ⟨conditions⟩ }) := by
      funext place
      have written := written place.1 place.2
      rw [found] at written
      rw [Function.update_apply]
      exact written
    refine ⟨reply.trans done, final.trans ?_⟩
    rw [objects, declared]
    rfl

theorem answers_connect {url : String} {r : Except Failure Unit}
    (h : s.Answers (.connect url) r s') : r = .ok () ∧ s' = s := by
  obtain ⟨w, calm, rfl, rfl, rfl⟩ := h
  exact ⟨World.openClient_of_reliable calm.faults url, World.scene_answer_of_quiet rfl rfl (by simp)⟩

theorem answers_now {r : Instant} (h : s.Answers .now r s') : s' = s := by
  obtain ⟨w, -, rfl, -, rfl⟩ := h
  rfl

theorem answers_drawKey {r : KeyPair} (h : s.Answers .drawKey r s') : s' = s := by
  obtain ⟨w, -, rfl, -, rfl⟩ := h
  rfl

section Interfaces

variable {url : String}

theorem answers_status {r : Except ApiError ControllerStatus} (h : s.Answers (.status url) r s') :
    r = ((s.apis url).status url).1 ∧ s' = s.setApi url ((s.apis url).status url).2 := by
  obtain ⟨w, calm, rfl, rfl, rfl⟩ := h
  exact World.scene_askApi calm ..

theorem answers_signUp {request : SignUp} {r : Except ApiError Unit}
    (h : s.Answers (.signUp url request) r s') : r = ((s.apis url).signUp url request).1 ∧
      s' = s.setApi url ((s.apis url).signUp url request).2 := by
  obtain ⟨w, calm, rfl, rfl, rfl⟩ := h
  exact World.scene_askApi calm ..

theorem answers_logIn {request : LogIn} {r : Except ApiError AccessToken}
    (h : s.Answers (.logIn url request) r s') :
    r = ((s.apis url).logIn request).1 ∧ s' = s.setApi url ((s.apis url).logIn request).2 := by
  obtain ⟨w, calm, rfl, rfl, rfl⟩ := h
  exact World.scene_askApi calm ..

theorem answers_changePassword {token : String} {request : PasswordChange} {r : Except ApiError Unit}
    (h : s.Answers (.changePassword url token request) r s') :
    r = ((s.apis url).changePassword token request).1 ∧
      s' = s.setApi url ((s.apis url).changePassword token request).2 := by
  obtain ⟨w, calm, rfl, rfl, rfl⟩ := h
  exact World.scene_askApi calm ..

theorem answers_putRouter {token : String} {router : DefaultRouter} {r : Except ApiError Unit}
    (h : s.Answers (.putRouter url token router) r s') :
    r = ((s.apis url).putRouter token router).1 ∧
      s' = s.setApi url ((s.apis url).putRouter token router).2 := by
  obtain ⟨w, calm, rfl, rfl, rfl⟩ := h
  exact World.scene_askApi calm ..

end Interfaces

end Scene

end Simulation

open Simulation
open Reconcile (externalAddress?)

namespace Program

variable {α β σ : Type} [Answering σ]

/-- `p.Finishes Q s`: in the state `s` the program never sleeps, and ends in a result and a state of
which `Q` holds. -/
def Finishes (Q : α → σ → Prop) : Program α → σ → Prop
  | .pure a, s => Q a s
  | .call c k, s => c.isSleep = false ∧ ∀ r s', Answering.Answers s c r s' → Finishes Q (k r) s'

namespace Finishes

variable {Q R : α → σ → Prop} {Q' : β → σ → Prop} {p : Program α} {s : σ}

theorem mono (hp : p.Finishes Q s) (h : ∀ a s', Q a s' → R a s') : p.Finishes R s := by
  induction p generalizing s with
  | pure a => exact h a s hp
  | call c k ih => exact ⟨hp.1, fun r s' answered => ih r (hp.2 r s' answered)⟩

theorem bind {f : α → Program β} (hp : p.Finishes Q s)
    (hf : ∀ a s', Q a s' → (f a).Finishes Q' s') : (p >>= f).Finishes Q' s := by
  induction p generalizing s with
  | pure a => exact hf a s hp
  | call c k ih => exact ⟨hp.1, fun r s' answered => ih r (hp.2 r s' answered)⟩

theorem perform {c : Call} {P : c.Reply → σ → Prop} (awake : c.isSleep = false)
    (h : ∀ r s', Answering.Answers s c r s' → P r s') : (Program.perform c).Finishes P s := ⟨awake, h⟩

/-- A program that never sleeps is done before one beside it starts. -/
theorem both {q : Program β} {P : α × β → σ → Prop} (hp : p.Finishes Q s)
    (hq : ∀ a s', Q a s' → q.Finishes (fun b => P (a, b)) s') : (Program.both p q).Finishes P s := by
  induction p generalizing s with
  | pure a => exact (hq a s hp).bind fun b s' h => h
  | call c k ih =>
    obtain ⟨awake, goesOn⟩ := hp
    have step : Program.both (.call c k) q = .call c fun r => Program.both (k r) q := by
      cases c <;> first | rfl | cases awake
    rw [step]
    exact ⟨awake, fun r s' answered => ih r (goesOn r s' answered)⟩

theorem joinAll {ps : List (Program α)} {P : List α → σ → Prop} (hp : p.Finishes Q s)
    (hps : ∀ a s', Q a s' → (Program.joinAll ps).Finishes (fun as => P (a :: as)) s') :
    (Program.joinAll (p :: ps)).Finishes P s :=
  (hp.both (P := fun r => P (r.1 :: r.2)) hps).bind fun _ _ h => h

end Finishes

end Program

/-- A program that finishes in the scene of a calm world does so in the world. -/
theorem Simulation.World.run_of_finishes {α : Type} {Q : α → Scene → Prop} {p : Program α} {w : World}
    (calm : w.Calm) (h : p.Finishes Q w.scene) :
    (w.run p).2.Calm ∧ Q (w.run p).1 (w.run p).2.scene := by
  induction p generalizing w with
  | pure a => exact ⟨calm, h⟩
  | call c k ih => exact ih _ (calm.answer c) (h.2 _ _ ⟨w, calm, rfl, rfl, rfl⟩)

/-- A run of a program that finishes in a world ends as it does. -/
theorem Simulation.World.run_of_finishes_here {α : Type} {Q : α → World → Prop} {p : Program α}
    {w : World} (h : p.Finishes Q w) : Q (w.run p).1 (w.run p).2 := by
  induction p generalizing w with
  | pure a => exact h
  | call c k ih => exact ih _ (h.2 _ _ rfl)

namespace Attempt

variable {α β σ : Type} [Answering σ]

/-- How an attempt ends in a state. -/
def Finishes (Q : Except Failure α → σ → Prop) (x : Attempt α) (s : σ) : Prop :=
  Program.Finishes Q x.run s

/-- An attempt that succeeds in a state, with a result and a state of which `Q` holds. -/
def Succeeds (Q : α → σ → Prop) (x : Attempt α) (s : σ) : Prop :=
  x.Finishes (fun r s' => ∃ a, r = .ok a ∧ Q a s') s

section Laws

variable {Q : Except Failure α → σ → Prop} {P : α → σ → Prop}
  {R : Except Failure β → σ → Prop} {x : Attempt α} {f : α → Attempt β} {s : σ}

namespace Finishes

theorem mono {Q' : Except Failure α → σ → Prop} (hx : x.Finishes Q s)
    (h : ∀ r s', Q r s' → Q' r s') : x.Finishes Q' s := Program.Finishes.mono hx h

theorem bind (hx : x.Finishes Q s) (done : ∀ a s', Q (.ok a) s' → (f a).Finishes R s')
    (failed : ∀ e s', Q (.error e) s' → R (.error e) s') : (x >>= f).Finishes R s :=
  Program.Finishes.bind hx fun r s' h => match r with
    | .ok a => done a s' h
    | .error e => failed e s' h

theorem pure {a : β} (h : R (.ok a) s) : (Pure.pure a : Attempt β).Finishes R s := h

theorem throw {e : Failure} (h : R (.error e) s) : (throw e : Attempt β).Finishes R s := h

theorem tryCatch {g : Failure → Attempt α} {Q' : Except Failure α → σ → Prop}
    (hx : x.Finishes Q s) (done : ∀ a s', Q (.ok a) s' → Q' (.ok a) s')
    (failed : ∀ e s', Q (.error e) s' → (g e).Finishes Q' s') : (tryCatch x g).Finishes Q' s :=
  Program.Finishes.bind hx fun r s' h => match r with
    | .ok a => done a s' h
    | .error e => failed e s' h

end Finishes

namespace Succeeds

theorem mono {P' : α → σ → Prop} (hx : x.Succeeds P s) (h : ∀ a s', P a s' → P' a s') :
    x.Succeeds P' s :=
  Finishes.mono hx fun _ s' ⟨a, done, hP⟩ => ⟨a, done, h a s' hP⟩

/-- What comes after an attempt that succeeds decides how the two end. -/
theorem bind (hx : x.Succeeds P s) (hf : ∀ a s', P a s' → (f a).Finishes R s') :
    (x >>= f).Finishes R s := by
  refine Finishes.bind hx ?_ ?_
  · rintro a s' ⟨_, ⟨⟩, h⟩
    exact hf a s' h
  · rintro e s' ⟨_, ⟨⟩, -⟩

end Succeeds

/-- A call whose answer is certain. -/
theorem succeeds_of_answers {p : Attempt α} {c : Call} {a : α} {t : σ} (awake : c.isSleep = false)
    (k : c.Reply → Except Failure α) (run : p.run = .call c fun r => .pure (k r))
    (h : ∀ r s', Answering.Answers s c r s' → k r = .ok a ∧ s' = t) :
    p.Succeeds (fun b s' => b = a ∧ s' = t) s := by
  rw [Succeeds, Finishes, run]
  refine ⟨awake, fun r s' answered => ?_⟩
  obtain ⟨done, rfl⟩ := h r s' answered
  exact ⟨a, done, rfl, rfl⟩

/-- A program that cannot fail. -/
theorem succeeds_ofProgram {p : Program α} (hp : p.Finishes P s) : (ofProgram p).Succeeds P s :=
  Program.Finishes.bind hp fun a _ h => ⟨a, rfl, h⟩

theorem finishes_viaApi {p : Program (Except ApiError α)} {Q : Except ApiError α → σ → Prop}
    (hp : p.Finishes Q s) : (viaApi p).Finishes
      (fun r s' => ∃ answer, r = answer.mapError .api ∧ Q answer s') s := by
  refine (succeeds_ofProgram hp : (exactly p).Succeeds Q s).bind fun answer s' h => ?_
  cases answer with
  | ok a => exact .pure ⟨.ok a, rfl, h⟩
  | error e => exact .throw ⟨.error e, rfl, h⟩

end Laws

variable {s : Scene} {ns name : String} {a : Address} {o : Object}

theorem succeeds_get : (get a).Succeeds (fun found s' => found = s.objects a ∧ s' = s) s :=
  succeeds_of_answers (c := .get a) rfl id rfl fun _ _ => Scene.answers_get

theorem succeeds_getSecret : (getSecret ns name).Succeeds
    (fun secret s' => secret = (s.objects ⟨.secret, ns, name⟩).bind (·.secret?) ∧ s' = s) s := by
  refine succeeds_get.bind ?_
  rintro _ s ⟨rfl, rfl⟩
  exact .pure ⟨_, rfl, rfl, rfl⟩

theorem succeeds_discoverAddress : (discoverAddress ns name).Succeeds
    (fun address s' => address = externalAddress? (s.objects ⟨.service, ns, name⟩) ∧ s' = s) s := by
  refine succeeds_get.bind ?_
  rintro _ s ⟨rfl, rfl⟩
  exact .pure ⟨_, rfl, rfl, rfl⟩

theorem succeeds_connect (url : String) : (connect url).Succeeds (fun _ s' => s' = s) s :=
  (succeeds_of_answers (c := .connect url) rfl id rfl fun _ _ => Scene.answers_connect).mono
    fun _ _ h => h.2

theorem succeeds_restart (there : (s.objects ⟨.deployment, ns, name⟩).isSome) :
    (restart ns name).Succeeds (fun _ s' => s' = s) s :=
  (succeeds_of_answers (c := .restart ns name) rfl id rfl fun _ _ => Scene.answers_restart there).mono
    fun _ _ h => h.2

theorem succeeds_drawKey : drawKey.Succeeds (fun _ s' => s' = s) s :=
  succeeds_ofProgram (.perform rfl fun _ _ => Scene.answers_drawKey)

theorem ofExcept_ok_bind (a : α) (f : α → Attempt β) : (ofExcept (.ok a) >>= f) = f a := rfl

section Sync

variable {owner : OwnerReference}

/-- Creating an object where a sync has found none. -/
theorem succeeds_create_ownedBy (missing : s.objects o.address = none) :
    (create (o.ownedBy owner)).Succeeds (fun _ s' => s' = s.put o.address (o.ownedBy owner)) s := by
  have here : (o.ownedBy owner).address = o.address := Object.address_ownedBy ..
  refine (succeeds_of_answers (c := .create _) rfl id rfl fun _ _ =>
    Scene.answers_create (by rw [here, missing])).mono ?_
  rintro _ _ ⟨-, rfl⟩
  rw [here]

/-- Replacing the object that a sync has found. -/
theorem succeeds_apply_ownedBy : (apply (o.ownedBy owner)).Succeeds
    (fun _ s' => s' = s.put o.address ((o.ownedBy owner).keepingStatus (s.objects o.address))) s := by
  have here : (o.ownedBy owner).address = o.address := Object.address_ownedBy ..
  refine (succeeds_of_answers (c := .apply _) rfl id rfl fun _ _ => Scene.answers_apply).mono ?_
  rintro _ _ ⟨-, rfl⟩
  rw [here]

/-- An object that may be replaced is there afterwards, with what the cluster reported of it before. -/
theorem succeeds_sync_apply : (sync owner .apply o).Succeeds
    (fun r s' => r.existed = (s.objects o.address).isSome ∧
      s' = s.put o.address ((o.ownedBy owner).keepingStatus (s.objects o.address))) s := by
  refine succeeds_get.bind ?_
  rintro _ s ⟨rfl, rfl⟩
  rw [Object.address_ownedBy]
  cases found : s.objects o.address with
  | none =>
    refine (succeeds_create_ownedBy found).bind fun _ s' now => .pure ⟨_, rfl, rfl, ?_⟩
    rw [now, Object.keepingStatus_none]
  | some old =>
    refine succeeds_apply_ownedBy.bind fun _ s' now => .pure ⟨_, rfl, rfl, ?_⟩
    rw [now, found]

/-- An object that is created only once is left as it is found. -/
theorem succeeds_sync_createOnly : (sync owner .createOnly o).Succeeds
    (fun _ s' => (s.objects o.address = none ∧ s' = s.put o.address (o.ownedBy owner)) ∨
      (s.objects o.address).isSome ∧ s' = s) s := by
  refine succeeds_get.bind ?_
  rintro _ s ⟨rfl, rfl⟩
  rw [Object.address_ownedBy]
  cases found : s.objects o.address with
  | none => exact (succeeds_create_ownedBy found).bind fun _ s' now => .pure ⟨_, rfl, .inl ⟨rfl, now⟩⟩
  | some old => exact .pure ⟨_, rfl, .inr ⟨rfl, rfl⟩⟩

end Sync

end Attempt

/-- How an attempt that succeeds is settled. -/
theorem Reconcile.finishes_settle {σ : Type} [Answering σ] {x : Attempt Outcome} {P : Outcome → σ → Prop}
    {s : σ} (hx : x.Succeeds P s) : (settle x).Finishes P s :=
  Program.Finishes.bind hx fun _ _ ⟨_, done, h⟩ => by
    subst done
    exact h

end EdgePlane
