import EdgePlane.Proofs.Phases
import EdgePlane.Proofs.Standpoint
import EdgePlane.Simulation.Watch

/-!
# Each call has its place

What the operator's calls reach lies at locations: an object at its address, a control plane under its
name, the management interface at a URL, the retries of a key. A call reads and changes at most one of
them. So whoever keeps to some locations does not notice what others do elsewhere, and leaves everything
elsewhere as it is.

The watcher's share is a move of its own: once a pass has ended it concludes when the next one is due. The
times that are read, the keys that are drawn and the calls that get lost on the way are not decided by
anything at a location, so they are taken as given.
-/

namespace EdgePlane

open Kubernetes Management

namespace Simulation

/-- A location of what calls reach. -/
inductive Location
  | object (a : Address)
  | controlPlane (ns name : String)
  | api (url : String)
  | retry (key : String)

/-- What stands at a location. -/
abbrev Location.Content : Location → Type
  | object _ => Option Object
  | controlPlane _ _ => Option ControlPlane
  | api _ => ApiServer
  | retry _ => Option Retry

/-- What stands at a location of a world. -/
def World.at (w : World) : (x : Location) → x.Content
  | .object a => w.cluster.object? a
  | .controlPlane ns name => w.cluster.controlPlane? ns name
  | .api url => w.api url
  | .retry key => w.retries.get? key

/-- Whether a cluster refuses to be read or to be written a status. No call changes that. -/
def World.mood (w : World) : Bool × Bool := (w.cluster.failsReads, w.cluster.rejectsStatus)

end Simulation

open Simulation
open World (answer)

/-- The location that a call is about. -/
def Call.location? : Call → Option Location
  | .get a => some (.object a)
  | .create o => some (.object o.address)
  | .apply o => some (.object o.address)
  | .restart ns name => some (.object ⟨.deployment, ns, name⟩)
  | .fetch ns name => some (.controlPlane ns name)
  | .record cp _ => some (.controlPlane (Cluster.placeOf cp).1 (Cluster.placeOf cp).2)
  | .connect _ => none
  | .status url => some (.api url)
  | .signUp url _ => some (.api url)
  | .logIn url _ => some (.api url)
  | .changePassword url _ _ => some (.api url)
  | .putRouter url _ _ => some (.api url)
  | .sleep _ => none
  | .now => none
  | .drawKey => none
  | .forget key => some (.retry key)

/-- Whether an answer is a time or a key. -/
def Call.isChance : Call → Bool
  | .now => true
  | .drawKey => true
  | _ => false

namespace Simulation.World

variable {w v : World} {c : Call}

theorem retries_announce (w : World) (c : Call) : (w.announce c).2.retries = w.retries := by
  unfold announce
  split <;> rfl

theorem retries_askCluster {α : Type} (w : World) (c : Call)
    (f : Cluster → Except Failure α × Cluster) : (w.askCluster c f).2.retries = w.retries := by
  rw [← retries_announce w c, askCluster]
  split <;> simp [*]

theorem retries_askApi {α : Type} (w : World) (c : Call) (url : String)
    (f : ApiServer → Except ApiError α × ApiServer) : (w.askApi c url f).2.retries = w.retries := by
  rw [← retries_announce w c, askApi]
  split <;> simp [*, setApi]

theorem retries_openClient (w : World) (url : String) : (w.openClient url).2.retries = w.retries := by
  rw [← retries_announce w (.connect url), openClient]
  split <;> simp [*]

/-- Only a key that is dropped changes retries. -/
theorem retries_answer (w : World) (h : ∀ key, c ≠ .forget key) : (answer c w).2.retries = w.retries := by
  cases c with
  | forget key => exact absurd rfl (h key)
  | connect url => exact retries_openClient w url
  | sleep d =>
    dsimp only [answer, wait]
    split <;> rfl
  | _ => first | rfl | exact retries_askCluster .. | exact retries_askApi ..

/-- A call that the cluster answers keeps its mood if what it does to the cluster keeps it. -/
theorem mood_askCluster {α : Type} (w : World) (c : Call) {f : Cluster → Except Failure α × Cluster}
    (h : (f w.cluster).2.failsReads = w.cluster.failsReads ∧
      (f w.cluster).2.rejectsStatus = w.cluster.rejectsStatus) : (w.askCluster c f).2.mood = w.mood := by
  obtain ⟨-, -, ⟨-, -, kept⟩ | ⟨-, made⟩⟩ := askCluster_cases w c f
  · rw [mood, kept, mood]
  · rw [mood, made, h.1, h.2, mood]

theorem mood_answer (c : Call) (w : World) : (answer c w).2.mood = w.mood := by
  have away {w' : World} (same : w'.cluster = w.cluster) : w'.mood = w.mood := by rw [mood, same, mood]
  cases c with
  | get a => exact mood_askCluster w (.get a) ⟨rfl, rfl⟩
  | create o =>
    refine mood_askCluster w (.create o) ?_
    unfold Cluster.create
    split <;> exact ⟨rfl, rfl⟩
  | apply o => exact mood_askCluster w (.apply o) ⟨rfl, rfl⟩
  | restart ns name =>
    refine mood_askCluster w (.restart ns name) ?_
    dsimp only [Cluster.restart]
    split <;> exact ⟨rfl, rfl⟩
  | fetch ns name => exact mood_askCluster w (.fetch ns name) ⟨rfl, rfl⟩
  | record cp conditions =>
    refine mood_askCluster w (.record cp conditions) ?_
    dsimp only [Cluster.record]
    split <;> exact ⟨rfl, rfl⟩
  | connect url => exact away (openClient_rest w url).1
  | sleep d => exact away (wait_rest w d).1
  | now => rfl
  | drawKey => rfl
  | forget key => rfl
  | _ => exact away (askApi_cases w ..).1

/-- A call of one interface leaves the others as they are. -/
theorem api_askApi_of_ne {α : Type} (w : World) (c : Call) {url other : String}
    (f : ApiServer → Except ApiError α × ApiServer) (h : url ≠ other) :
    (w.askApi c url f).2.api other = w.api other := by
  obtain ⟨-, -, ⟨-, -, kept⟩ | ⟨-, made⟩⟩ := askApi_cases w c url f
  · exact kept other
  · rw [made, if_neg (Ne.symm h)]

/-- What stands at other locations than that of a call stays there. -/
theorem at_answer_of_ne (w : World) {x : Location} (h : c.location? ≠ some x) :
    (answer c w).2.at x = w.at x := by
  cases x with
  | object a =>
    have unstored : (⟨c, (answer c w).1⟩ : Event).storedAt? a = none := by
      refine Option.eq_none_iff_forall_ne_some.2 fun o stored => ?_
      obtain ⟨stored, here⟩ := Event.storedAt?_eq_some.1 stored
      have stores := Event.stores?_of_stored stored
      subst here
      cases c <;> simp [Call.stores?, Call.location?] at stores h
      all_goals exact h (congrArg Object.address stores)
    exact (answersAt_answer a c w).object.trans (Part.objectAt_ignores unstored _)
  | controlPlane ns name =>
    by_cases writes : ∃ cp conditions, c = .record cp conditions
    · obtain ⟨cp, conditions, rfl⟩ := writes
      have aside : (ns, name) ≠ Cluster.placeOf cp := by
        rintro here
        exact h (by rw [Call.location?, ← here])
      show (answer (.record cp conditions) w).2.cluster.controlPlane? ns name =
        w.cluster.controlPlane? ns name
      obtain ⟨-, -, ⟨-, -, kept⟩ | ⟨-, made⟩⟩ :=
        askCluster_cases w (.record cp conditions) (·.record cp conditions)
      · rw [answer, kept]
      · rw [answer, made]
        rcases w.cluster.record_cases cp conditions with ⟨-, kept⟩ | ⟨-, written⟩
        · rw [kept]
        · rw [written, if_neg aside]
    · have same := controlPlanes_answer c w fun cp conditions is => writes ⟨cp, conditions, is⟩
      show (answer c w).2.cluster.controlPlane? ns name = w.cluster.controlPlane? ns name
      rw [Cluster.controlPlane?, same]
      rfl
  | api url =>
    have apart {url' : String} (h : some (Location.api url') ≠ some (.api url)) : url' ≠ url := by
      rintro rfl
      exact h rfl
    cases c with
    | restart ns name => exact api_of_apis (askCluster_cases w ..).1 url
    | status url' => exact api_askApi_of_ne w _ _ (apart h)
    | signUp url' request => exact api_askApi_of_ne w _ _ (apart h)
    | logIn url' request => exact api_askApi_of_ne w _ _ (apart h)
    | changePassword url' token request => exact api_askApi_of_ne w _ _ (apart h)
    | putRouter url' token router => exact api_askApi_of_ne w _ _ (apart h)
    | _ => exact (untouched_answer rfl).1 url
  | retry key =>
    by_cases drops : ∃ key', c = .forget key'
    · obtain ⟨key', rfl⟩ := drops
      have other : key ≠ key' := by
        rintro rfl
        exact h rfl
      show (w.retries.forget key').get? key = w.retries.get? key
      rw [Retries.forget, Dict.get?_erase, if_neg other]
    · have same := retries_answer w fun key' is => drops ⟨key', is⟩
      exact congrArg (Dict.get? · key) same

/-- Without faults the cluster answers by what is asked of it, and that alone. -/
theorem askCluster_congr {α : Type} (hw : w.faults = []) (hv : v.faults = []) (c : Call)
    {f : Cluster → Except Failure α × Cluster} (same : (f w.cluster).1 = (f v.cluster).1) :
    (w.askCluster c f).1 = (v.askCluster c f).1 := by
  rw [(askCluster_of_reliable hw c f).1, (askCluster_of_reliable hv c f).1, same]

/-- Without faults an interface answers by what it is, and becomes what follows from that. -/
theorem askApi_congr {α : Type} (hw : w.faults = []) (hv : v.faults = []) (c : Call) {url : String}
    (f : ApiServer → Except ApiError α × ApiServer) (same : w.api url = v.api url) :
    (w.askApi c url f).1 = (v.askApi c url f).1 ∧
      (w.askApi c url f).2.api url = (v.askApi c url f).2.api url := by
  obtain ⟨replyW, nowW⟩ := askApi_of_reliable hw c url f
  obtain ⟨replyV, nowV⟩ := askApi_of_reliable hv c url f
  rw [replyW, replyV, nowW, nowV, if_pos rfl, if_pos rfl, same]
  exact ⟨rfl, rfl⟩

/-- Two worlds without faults in which the same stands at some locations. -/
structure Agree (D : Location → Prop) (w v : World) : Prop where
  reliable : w.faults = [] ∧ v.faults = []
  mood : w.mood = v.mood
  same : ∀ x, D x → w.at x = v.at x

namespace Agree

variable {D : Location → Prop}

theorem refl (reliable : w.faults = []) : Agree D w w := ⟨⟨reliable, reliable⟩, rfl, fun _ _ => rfl⟩

theorem symm (h : Agree D w v) : Agree D v w :=
  ⟨h.reliable.symm, h.mood.symm, fun x hx => (h.same x hx).symm⟩

theorem trans {u : World} (h : Agree D w v) (h' : Agree D v u) : Agree D w u :=
  ⟨⟨h.reliable.1, h'.reliable.2⟩, h.mood.trans h'.mood, fun x hx => (h.same x hx).trans (h'.same x hx)⟩

/-- Worlds that agree at the location of a call give the same answer to it. -/
theorem reply (h : Agree D w v) (given : c.isChance = false) (awake : c.isSleep = false)
    (inside : ∀ x, c.location? = some x → D x) : (answer c w).1 = (answer c v).1 := by
  obtain ⟨hw, hv⟩ := h.reliable
  have reads : w.cluster.failsReads = v.cluster.failsReads := congrArg Prod.fst h.mood
  have writes : w.cluster.rejectsStatus = v.cluster.rejectsStatus := congrArg Prod.snd h.mood
  have object {a : Address} (here : c.location? = some (.object a)) :
      w.cluster.object? a = v.cluster.object? a := h.same (.object a) (inside _ here)
  have api {url : String} (here : c.location? = some (.api url)) : w.api url = v.api url :=
    h.same (.api url) (inside _ here)
  cases c with
  | get a => exact askCluster_congr hw hv (.get a) (congrArg Except.ok (object rfl))
  | create o =>
    refine askCluster_congr hw hv (.create o) ?_
    simp only [Cluster.create, object rfl]
    split <;> rfl
  | apply o => exact askCluster_congr hw hv (.apply o) rfl
  | restart ns name =>
    refine askCluster_congr hw hv (.restart ns name) ?_
    simp only [Cluster.restart, object rfl]
    split <;> rfl
  | fetch ns name =>
    refine askCluster_congr hw hv (.fetch ns name) ?_
    have found : w.cluster.controlPlane? ns name = v.cluster.controlPlane? ns name :=
      h.same (.controlPlane ns name) (inside _ rfl)
    simp only [Cluster.fetch, reads, found]
  | record cp conditions =>
    refine askCluster_congr hw hv (.record cp conditions) ?_
    simp only [Cluster.record, writes]
    split <;> rfl
  | connect url =>
    exact (openClient_of_reliable hw url).trans (openClient_of_reliable hv url).symm
  | status url => exact (askApi_congr hw hv _ _ (api rfl)).1
  | signUp url request => exact (askApi_congr hw hv _ _ (api rfl)).1
  | logIn url request => exact (askApi_congr hw hv _ _ (api rfl)).1
  | changePassword url token request => exact (askApi_congr hw hv _ _ (api rfl)).1
  | putRouter url token router => exact (askApi_congr hw hv _ _ (api rfl)).1
  | sleep d => cases awake
  | now => cases given
  | drawKey => cases given
  | forget key => rfl

/-- Where the same object stands, a call about it leaves the same. -/
theorem object (h : Agree D w v) {a : Address} (here : c.location? = some (.object a))
    (inside : D (.object a)) :
    (answer c w).2.cluster.object? a = (answer c v).2.cluster.object? a := by
  have same : w.cluster.object? a = v.cluster.object? a := h.same (.object a) inside
  have replied : (answer c w).1 = (answer c v).1 := by
    refine h.reply ?_ ?_ fun y there => ?_
    · cases c <;> first | rfl | cases here
    · cases c <;> first | rfl | cases here
    · rw [here] at there
      exact Option.some.inj there ▸ inside
  rw [(answersAt_answer a c w).object, (answersAt_answer a c v).object, replied, same]

/-- Where the same control plane is declared, a call about it leaves the same. -/
theorem controlPlane (h : Agree D w v) {ns name : String} (here : c.location? = some (.controlPlane ns name))
    (inside : D (.controlPlane ns name)) :
    (answer c w).2.cluster.controlPlane? ns name = (answer c v).2.cluster.controlPlane? ns name := by
  have same : w.cluster.controlPlane? ns name = v.cluster.controlPlane? ns name :=
    h.same (.controlPlane ns name) inside
  cases c with
  | fetch ns' name' =>
    have quiet : ∀ cp conditions, Call.fetch ns' name' ≠ .record cp conditions := fun _ _ is => by cases is
    rw [Cluster.controlPlane?, Cluster.controlPlane?, controlPlanes_answer _ w quiet,
      controlPlanes_answer _ v quiet]
    exact same
  | record cp conditions =>
    cases here
    have writes : w.cluster.rejectsStatus = v.cluster.rejectsStatus := congrArg Prod.snd h.mood
    have place : w.cluster.controlPlanes.get? (Cluster.placeOf cp) =
        v.cluster.controlPlanes.get? (Cluster.placeOf cp) := same
    rw [answer, answer,
      (askCluster_of_reliable h.reliable.1 (.record cp conditions) (·.record cp conditions)).2,
      (askCluster_of_reliable h.reliable.2 (.record cp conditions) (·.record cp conditions)).2]
    simp only [Cluster.record, writes]
    split
    · exact same
    · simp only [Cluster.controlPlane?, Dict.get?_insert_self, place]
  | _ => cases here

/-- Where an interface is the same, a call of it leaves the same. -/
theorem interface (h : Agree D w v) {url : String} (here : c.location? = some (.api url))
    (inside : D (.api url)) : (answer c w).2.api url = (answer c v).2.api url := by
  have same : w.api url = v.api url := h.same (.api url) inside
  obtain ⟨hw, hv⟩ := h.reliable
  cases c with
  | status url' =>
    cases here
    exact (askApi_congr hw hv _ _ same).2
  | signUp url' request =>
    cases here
    exact (askApi_congr hw hv _ _ same).2
  | logIn url' request =>
    cases here
    exact (askApi_congr hw hv _ _ same).2
  | changePassword url' token request =>
    cases here
    exact (askApi_congr hw hv _ _ same).2
  | putRouter url' token router =>
    cases here
    exact (askApi_congr hw hv _ _ same).2
  | _ => cases here

/-- A call leaves the same at its location in worlds that agree there. -/
theorem result (h : Agree D w v) {x : Location} (here : c.location? = some x) (inside : D x) :
    (answer c w).2.at x = (answer c v).2.at x := by
  cases x with
  | object a => exact h.object here inside
  | controlPlane ns name => exact h.controlPlane here inside
  | api url => exact h.interface here inside
  | retry key =>
    cases c with
    | forget key' =>
      cases here
      show (w.retries.forget key).get? key = (v.retries.forget key).get? key
      rw [Retries.forget, Retries.forget, Dict.get?_erase, Dict.get?_erase, if_pos rfl, if_pos rfl]
    | _ => cases here

/-- Worlds that agree at some locations agree there after a call. -/
theorem answer_inside (h : Agree D w v) : Agree D (answer c w).2 (answer c v).2 where
  reliable := ⟨faults_answer c w h.reliable.1, faults_answer c v h.reliable.2⟩
  mood := by rw [mood_answer, mood_answer, h.mood]
  same x hx := by
    by_cases here : c.location? = some x
    · exact h.result here hx
    · rw [at_answer_of_ne w here, at_answer_of_ne v here, h.same x hx]

/-- A call about an outer location is not noticed inside. -/
theorem answer_outside (h : Agree D w v) (outside : ∀ x, c.location? = some x → ¬ D x) :
    Agree D (answer c w).2 v where
  reliable := ⟨faults_answer c w h.reliable.1, h.reliable.2⟩
  mood := by rw [mood_answer, h.mood]
  same x hx := by rw [at_answer_of_ne w fun here => outside x here hx, h.same x hx]

end Agree

end Simulation.World

namespace Retries

/-- What is concluded for a key depends on its own retries alone, and changes no others. -/
theorem conclude_congr {r s : Retries} {key : String} (d : Decision) (same : r.get? key = s.get? key) :
    (r.conclude key d).1 = (s.conclude key d).1 ∧
      (r.conclude key d).2.get? key = (s.conclude key d).2.get? key := by
  have settled : (r.settle key).get? key = (s.settle key).get? key := by
    unfold settle
    rw [← same]
    cases found : r.get? key with
    | none => exact same
    | some e => simp only [Dict.get?_insert_self]
  have entry : r.entry key = s.entry key := by rw [Retries.entry, Retries.entry, same]
  cases d with
  | stop => exact ⟨rfl, settled⟩
  | requeueNow => exact ⟨rfl, settled⟩
  | requeueAfter delay => exact ⟨rfl, settled⟩
  | retryOnError cause =>
    simp [conclude, act, fail, countError, delay, Retries.entry, Dict.get?_insert_self, same]

theorem conclude_of_ne (r : Retries) {key other : String} (d : Decision) (h : other ≠ key) :
    (r.conclude key d).2.get? other = r.get? other := by
  have settled : (r.settle key).get? other = r.get? other := by
    unfold settle
    split
    · rfl
    · exact Dict.get?_insert_ne h ..
  cases d with
  | stop => exact settled
  | requeueNow => exact settled
  | requeueAfter delay => exact settled
  | retryOnError cause =>
    simp [conclude, act, fail, countError, delay, Dict.get?_insert_ne h]

end Retries

/-- Whether an event is a call that has failed. -/
def Event.isFailed : Event → Bool
  | ⟨.get _, .error _⟩ => true
  | ⟨.create _, .error _⟩ => true
  | ⟨.apply _, .error _⟩ => true
  | ⟨.restart _ _, .error _⟩ => true
  | ⟨.fetch _ _, .error _⟩ => true
  | ⟨.record _ _, .error _⟩ => true
  | ⟨.connect _, .error _⟩ => true
  | ⟨.status _, .error _⟩ => true
  | ⟨.signUp _ _, .error _⟩ => true
  | ⟨.logIn _ _, .error _⟩ => true
  | ⟨.changePassword _ _ _, .error _⟩ => true
  | ⟨.putRouter _ _ _, .error _⟩ => true
  | _ => false

/-- A step of the operator: a call that is answered, a call that is lost on the way and fails, or the
watcher's conclusion from the decision of a pass. -/
inductive Move
  | call (e : Event)
  | lost (e : Event)
  | conclude (visitor : Visitor) (decision : Decision) (action : Action)

namespace Move

/-- The call of a move, with what came back. -/
def event? : Move → Option Event
  | call e => some e
  | lost e => some e
  | conclude _ _ _ => none

/-- The location that a move is about. -/
def location? : Move → Option Location
  | call e => e.call.location?
  | lost e => e.call.location?
  | conclude visitor _ _ => some (.retry visitor.key)

/-- Whether a move is about none but some locations. -/
def Within (D : Location → Prop) (m : Move) : Prop := ∀ x, m.location? = some x → D x

end Move

namespace Simulation.World

/-- `w.Lives ms w'`: the moves `ms` are made in the world `w`, which is `w'` after them. Answers and
conclusions are those of the world; times and keys may be any, and calls may get lost. Between the moves
time may pass. -/
inductive Lives : World → List Move → World → Prop
  | done (w : World) : Lives w [] w
  | sleep {w w' : World} {ms : List Move} (d : Duration) (rest : Lives (answer (.sleep d) w).2 ms w') :
    Lives w ms w'
  | call {w w' : World} {ms : List Move} (e : Event)
    (fits : e.call.isChance = true ∨ e.call.isSleep = false ∧ e.reply = (answer e.call w).1)
    (rest : Lives (answer e.call w).2 ms w') : Lives w (.call e :: ms) w'
  | lost {w w' : World} {ms : List Move} (e : Event) (failed : e.isFailed = true) (rest : Lives w ms w') :
    Lives w (.lost e :: ms) w'
  | conclude {w w' : World} {ms : List Move} (visitor : Visitor) (decision : Decision)
    (rest : Lives { w with retries := (w.retries.conclude visitor.key decision).2 } ms w') :
    Lives w (.conclude visitor decision (w.retries.conclude visitor.key decision).1 :: ms) w'

variable {D E : Location → Prop} {w w' v : World} {l r ms : List Move}

namespace Agree

/-- Sleeping changes no location. -/
theorem slept (h : Agree D w v) (d : Duration) : Agree D (answer (.sleep d) w).2 v :=
  h.answer_outside (c := .sleep d) nofun

theorem concluded (h : Agree D w v) (visitor : Visitor) (decision : Decision)
    (inside : D (.retry visitor.key)) :
    (w.retries.conclude visitor.key decision).1 = (v.retries.conclude visitor.key decision).1 ∧
      Agree D { w with retries := (w.retries.conclude visitor.key decision).2 }
        { v with retries := (v.retries.conclude visitor.key decision).2 } := by
  have own := Retries.conclude_congr decision (h.same (.retry visitor.key) inside)
  refine ⟨own.1, h.reliable, h.mood, fun x hx => ?_⟩
  cases x with
  | retry key =>
    by_cases here : key = visitor.key
    · subst here
      exact own.2
    · exact (Retries.conclude_of_ne _ decision here).trans
        ((h.same _ hx).trans (Retries.conclude_of_ne _ decision here).symm)
  | object a => exact h.same (.object a) hx
  | controlPlane ns name => exact h.same (.controlPlane ns name) hx
  | api url => exact h.same (.api url) hx

theorem concluded_outside (h : Agree D w v) (visitor : Visitor) (decision : Decision)
    (outside : ¬ D (.retry visitor.key)) :
    Agree D { w with retries := (w.retries.conclude visitor.key decision).2 } v where
  reliable := h.reliable
  mood := h.mood
  same x hx := by
    cases x with
    | retry key =>
      have other : key ≠ visitor.key := by
        rintro rfl
        exact outside hx
      exact (Retries.conclude_of_ne _ decision other).trans (h.same _ hx)
    | object a => exact h.same (.object a) hx
    | controlPlane ns name => exact h.same (.controlPlane ns name) hx
    | api url => exact h.same (.api url) hx

end Agree

namespace Lives

theorem append {u : World} (h : w.Lives l u) (h' : u.Lives r w') : w.Lives (l ++ r) w' := by
  induction h with
  | done w => exact h'
  | sleep d _ ih => exact .sleep d (ih h')
  | call e fits _ ih => exact .call e fits (ih h')
  | lost e failed _ ih => exact .lost e failed (ih h')
  | conclude visitor decision _ ih => exact .conclude visitor decision (ih h')

/-- A world that follows a trace makes the moves of it. -/
theorem of_follows {t : List Event} (h : w.Follows t w') : w.Lives (t.map .call) w' := by
  induction h with
  | done w => exact .done w
  | call c awake _ ih => exact .call ⟨c, _⟩ (.inr ⟨awake, rfl⟩) ih
  | sleep d _ ih => exact .sleep d ih

/-- Moves elsewhere are not noticed at some locations. -/
theorem frame (h : w.Lives ms w') (reliable : w.faults = []) (outside : ∀ m ∈ ms, m.Within (¬ D ·)) :
    Agree D w w' := by
  suffices go : ∀ v, Agree D w v → Agree D w' v from (go w (.refl reliable)).symm
  clear reliable
  induction h with
  | done w => exact fun v h => h
  | sleep d _ ih => exact fun v h => ih outside v (h.slept d)
  | call e fits _ ih =>
    intro v h
    exact ih (fun m hm => outside m (List.mem_cons_of_mem _ hm)) v
      (h.answer_outside (outside _ (List.mem_cons_self ..)))
  | lost e failed _ ih => exact ih fun m hm => outside m (List.mem_cons_of_mem _ hm)
  | conclude visitor decision _ ih =>
    intro v h
    exact ih (fun m hm => outside m (List.mem_cons_of_mem _ hm)) v
      (h.concluded_outside visitor decision (outside _ (List.mem_cons_self ..) _ rfl))

/-- Of moves in two separate places, each place's are made alone as they are made beside the others. -/
theorem project (lives : w.Lives ms w') (apart : ∀ x, D x → ¬ E x) (woven : Interleaving l r ms)
    (hl : ∀ m ∈ l, m.Within D) (hr : ∀ m ∈ r, m.Within E) (agree : Agree D w v) :
    ∃ v', v.Lives l v' ∧ Agree D w' v' := by
  induction lives generalizing l r v with
  | done w =>
    cases woven
    exact ⟨v, .done v, agree⟩
  | sleep d _ ih => exact ih woven hl hr (agree.slept d)
  | call e fits _ ih =>
    cases woven with
    | left _ woven =>
      have inside := hl _ (List.mem_cons_self ..)
      obtain ⟨v', lives, agree'⟩ := ih woven (fun m hm => hl m (List.mem_cons_of_mem _ hm)) hr
        agree.answer_inside
      refine ⟨v', .call e ?_ lives, agree'⟩
      by_cases chance : e.call.isChance = true
      · exact .inl chance
      · obtain ⟨awake, replied⟩ := fits.resolve_left chance
        exact .inr ⟨awake, replied.trans (agree.reply (Bool.eq_false_iff.2 chance) awake inside)⟩
    | right _ woven =>
      have outside := hr _ (List.mem_cons_self ..)
      exact ih woven hl (fun m hm => hr m (List.mem_cons_of_mem _ hm))
        (agree.answer_outside fun x here inside => apart x inside (outside x here))
  | lost e failed _ ih =>
    cases woven with
    | left _ woven =>
      obtain ⟨v', lives, agree'⟩ := ih woven (fun m hm => hl m (List.mem_cons_of_mem _ hm)) hr agree
      exact ⟨v', .lost e failed lives, agree'⟩
    | right _ woven => exact ih woven hl (fun m hm => hr m (List.mem_cons_of_mem _ hm)) agree
  | conclude visitor decision _ ih =>
    cases woven with
    | left _ woven =>
      have inside : D (.retry visitor.key) := hl _ (List.mem_cons_self ..) _ rfl
      obtain ⟨same, agree⟩ := agree.concluded visitor decision inside
      obtain ⟨v', lives, agree'⟩ := ih woven (fun m hm => hl m (List.mem_cons_of_mem _ hm)) hr agree
      rw [same]
      exact ⟨v', .conclude visitor decision lives, agree'⟩
    | right _ woven =>
      have outside : E (.retry visitor.key) := hr _ (List.mem_cons_self ..) _ rfl
      exact ih woven hl (fun m hm => hr m (List.mem_cons_of_mem _ hm))
        (agree.concluded_outside visitor decision fun inside => apart _ inside outside)

end Lives

/-- Moves that are about some locations only, part of a life from `w` to `w'`. They are made alike wherever
the same stands at these locations, and leave the same there as in `w'`; nothing else is changed by them. -/
structure Confined (D : Location → Prop) (w : World) (ms : List Move) (w' : World) : Prop where
  within : ∀ m ∈ ms, m.Within D
  alike : ∀ v, Agree D w v → ∃ v', v.Lives ms v' ∧ Agree D w' v' ∧ ∀ x, ¬ D x → v'.at x = v.at x

theorem Lives.confined (lives : w.Lives ms w') (apart : ∀ x, D x → ¬ E x) (woven : Interleaving l r ms)
    (hl : ∀ m ∈ l, m.Within D) (hr : ∀ m ∈ r, m.Within E) : Confined D w l w' where
  within := hl
  alike v agree := by
    obtain ⟨v', alone, agree'⟩ := lives.project apart woven hl hr agree
    refine ⟨v', alone, agree', fun x outside => ?_⟩
    have kept : Agree (· = x) v v' := alone.frame agree.reliable.2 fun m hm y here is =>
      outside (is ▸ hl m hm y here)
    exact (kept.same x rfl).symm

namespace Lives

/-- Moves in two separate places come to the same when those of one place are made first. -/
theorem sequential (lives : w.Lives ms w') (apart : ∀ x, D x → ¬ E x) (reliable : w.faults = [])
    (woven : Interleaving l r ms) (hl : ∀ m ∈ l, m.Within D) (hr : ∀ m ∈ r, m.Within E) :
    ∃ u v, w.Lives l u ∧ u.Lives r v ∧ ∀ x, w'.at x = v.at x := by
  have apart' : ∀ x, E x → ¬ D x := fun x hE hD => apart x hD hE
  obtain ⟨u, first, left⟩ := lives.project apart woven hl hr (.refl reliable)
  have kept : Agree E w u := first.frame reliable fun m hm x here => apart x (hl m hm x here)
  obtain ⟨v, second, right⟩ := lives.project apart' woven.swap hr hl kept
  have still : Agree D u v := second.frame left.reliable.2 fun m hm x here => apart' x (hr m hm x here)
  refine ⟨u, v, first, second, fun x => ?_⟩
  by_cases inside : D x
  · exact (left.trans still).same x inside
  by_cases beside : E x
  · exact right.same x beside
  -- What lies in neither place nobody has touched.
  have aside {m : Move} (hm : m ∈ l ∨ m ∈ r) : m.Within (· ≠ x) := by
    rintro y here rfl
    rcases hm with hm | hm
    · exact inside (hl m hm y here)
    · exact beside (hr m hm y here)
  have whole : Agree (· = x) w w' := lives.frame reliable fun m hm => aside (woven.mem_iff.1 hm)
  have one : Agree (· = x) w u := first.frame reliable fun m hm => aside (.inl hm)
  have two : Agree (· = x) u v := second.frame left.reliable.2 fun m hm => aside (.inr hm)
  exact ((whole.symm.trans one).trans two).same x rfl

end Lives

end Simulation.World

end EdgePlane
