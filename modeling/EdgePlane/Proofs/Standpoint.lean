import EdgePlane.Proofs.CleanPart
import EdgePlane.Proofs.WorldTrace

/-!
# Standpoints

A program that runs beside others sees only some of a world, and what it sees the others may leave alone.
A standpoint says how closely it regards the object at each address, what it writes, and whether it
draws keys or talks to the management interface. From a standpoint two worlds are the same if they differ
in nothing that it regards.

A program that keeps to a standpoint cannot tell such worlds apart. So if the others do nothing that it
would notice, it does beside them what it would do alone.
-/

namespace EdgePlane

open Kubernetes Management Simulation
open Reconcile (externalAddress? externalAddress?_keepingStatus)

/-- How closely the object at an address is regarded. -/
inductive Regard
  | unseen
  /-- Only the address that a load balancer was given counts. -/
  | exposure
  | whole
  deriving DecidableEq

namespace Regard

/-- Whether two objects at an address look alike. -/
def Alike : Regard → Option Object → Option Object → Prop
  | unseen, _, _ => True
  | exposure, o, o' => externalAddress? o = externalAddress? o'
  | whole, o, o' => o = o'

/-- Whether it goes unnoticed that an object is stored. -/
def Overlooks : Regard → Object → Prop
  | unseen, _ => True
  | exposure, o => ∃ s, o = .service s ∧ s.status = none
  | whole, _ => False

variable {r : Regard} {o o' o'' : Option Object}

theorem Alike.refl (r : Regard) (o : Option Object) : r.Alike o o := by
  cases r <;> trivial

theorem Alike.symm (h : r.Alike o o') : r.Alike o' o := by
  cases r with
  | unseen => trivial
  | exposure => exact Eq.symm h
  | whole => exact Eq.symm h

theorem Alike.trans (h : r.Alike o o') (h' : r.Alike o' o'') : r.Alike o o'' := by
  cases r with
  | unseen => trivial
  | exposure => exact Eq.trans h h'
  | whole => exact Eq.trans h h'

theorem Overlooks.alike {new : Object} (h : r.Overlooks new) (old : Option Object) :
    r.Alike (some (new.keepingStatus old)) old := by
  cases r with
  | unseen => trivial
  | exposure =>
    obtain ⟨s, rfl, hs⟩ := h
    exact externalAddress?_keepingStatus hs old
  | whole => exact h.elim

end Regard

/-- Whether the interface refused a login or a registration as having a wrong password. -/
def Event.isRefusal : Event → Bool
  | ⟨.signUp _ _, .error e⟩ => (Failure.api e).isInvalidCredentials
  | ⟨.logIn _ _, .error e⟩ => (Failure.api e).isInvalidCredentials
  | _ => false

/-- What a program regards of a world and what it does to it. -/
structure Standpoint where
  regard : Address → Regard
  /-- Where an object is known to stand. -/
  Stands : Address → Prop
  /-- The objects that it may store. -/
  Writes : Object → Prop
  draws : Bool
  talks : Bool
  /-- Whether it can cope with a login that is refused. -/
  copes : Bool
  whole_of_writes : ∀ o, Writes o → regard o.address = .whole

namespace Standpoint

variable (S : Standpoint)

/-- Whether lookups of an address are answered alike. -/
def Finds (a : Address) (o o' : Option Object) : Prop :=
  (S.regard a).Alike o o' ∧ (S.Stands a → o.isSome ∧ o'.isSome)

/-- Whether a program may make a call. -/
def Calls : Call → Prop
  | .get a => S.regard a ≠ .unseen ∨ S.Stands a
  | .create o => S.Writes o
  | .apply o => S.Writes o
  | .restart ns name => S.talks ∧
    (S.regard ⟨.deployment, ns, name⟩ = .whole ∨ S.Stands ⟨.deployment, ns, name⟩)
  | .connect _ => True
  | .status _ => S.talks
  | .signUp _ _ => S.talks
  | .logIn _ _ => S.talks
  | .changePassword _ _ _ => S.talks
  | .putRouter _ _ _ => S.talks
  | .sleep _ => True
  | .drawKey => S.draws
  | _ => False

/-- Whether it goes unnoticed that others make a call. -/
structure Overlooks (c : Call) : Prop where
  stores : ∀ o, c.stores? = some o → (S.regard o.address).Overlooks o
  talk : c.isTalk → S.talks = false
  key : c = .drawKey → S.draws = false

/-- Whether two answers to a call are alike. -/
def Alike : (c : Call) → c.Reply → c.Reply → Prop
  | .get a, r, r' => ∃ o o', r = .ok o ∧ r' = .ok o' ∧ S.Finds a o o'
  | .sleep _, _, _ => True
  | _, r, r' => r = r'

/-- Whether a program is prepared for an event. -/
def Expects (e : Event) : Prop := S.copes ∨ e.isRefusal = false

/-- `S.Steady Q p`: the program `p` keeps to the standpoint `S`, goes on alike after answers that are
alike, and what it results in satisfies `Q`. -/
def Steady {α : Type} (Q : α → Prop) : Program α → Prop
  | .pure a => Q a
  | .call c k => S.Calls c ∧ ∀ r r', S.Alike c r r' → S.Expects ⟨c, r⟩ →
      k r = k r' ∧ Steady Q (k r)

/-- Whether two worlds without faults are the same from a standpoint. -/
structure Same (w v : World) : Prop where
  reliable : w.faults = [] ∧ v.faults = []
  objects : ∀ a, S.Finds a (w.cluster.object? a) (v.cluster.object? a)
  keys : S.draws → w.keysDrawn = v.keysDrawn
  apis : S.talks → ∀ url, w.api url = v.api url
  restarts : S.talks → w.cluster.restarts = v.cluster.restarts

variable {S}

theorem Finds.eq {a : Address} {o o' : Option Object} (h : S.Finds a o o') (whole : S.regard a = .whole) :
    o = o' := by
  have alike := h.1
  rwa [whole] at alike

theorem Finds.symm {a : Address} {o o' : Option Object} (h : S.Finds a o o') : S.Finds a o' o :=
  ⟨h.1.symm, fun stands => (h.2 stands).symm⟩

theorem Same.symm {w v : World} (h : S.Same w v) : S.Same v w where
  reliable := h.reliable.symm
  objects a := (h.objects a).symm
  keys draws := (h.keys draws).symm
  apis talks url := (h.apis talks url).symm
  restarts talks := (h.restarts talks).symm

end Standpoint

namespace Simulation

/-- Whether pods can be replaced depends on whether there is a deployment. -/
theorem Cluster.restart_congr {c c' : Cluster} {ns name : String}
    (stand : (c.object? ⟨.deployment, ns, name⟩).isNone = (c'.object? ⟨.deployment, ns, name⟩).isNone)
    (same : c.restarts = c'.restarts) :
    (c.restart ns name).1 = (c'.restart ns name).1 ∧
      (c.restart ns name).2.restarts = (c'.restart ns name).2.restarts := by
  unfold Cluster.restart
  rw [stand]
  split
  · exact ⟨rfl, same⟩
  · exact ⟨rfl, congrArg (· ++ _) same⟩

namespace World

variable {w : World}

/-- Without faults the cluster answers the calls that are made to it. -/
theorem askCluster_of_reliable {α : Type} (reliable : w.faults = []) (c : Call)
    (f : Cluster → Except Failure α × Cluster) :
    (w.askCluster c f).1 = (f w.cluster).1 ∧ (w.askCluster c f).2.cluster = (f w.cluster).2 := by
  obtain ⟨-, -, ⟨faults, -⟩ | answered⟩ := askCluster_cases w c f
  · exact absurd reliable faults
  · exact answered

theorem get_of_reliable (reliable : w.faults = []) (a : Address) :
    (answer (.get a) w).1 = .ok (w.cluster.object? a) :=
  (askCluster_of_reliable reliable (.get a) fun c => (.ok (c.object? a), c)).1

/-- Without faults an interface answers the calls that are made to it. -/
theorem askApi_of_reliable {α : Type} (reliable : w.faults = []) (c : Call) (url : String)
    (f : ApiServer → Except ApiError α × ApiServer) :
    (w.askApi c url f).1 = (f (w.api url)).1 ∧
      ∀ u, (w.askApi c url f).2.api u = if u = url then (f (w.api url)).2 else w.api u := by
  obtain ⟨-, -, ⟨faults, -⟩ | answered⟩ := askApi_cases w c url f
  · exact absurd reliable faults
  · exact answered

/-- Without faults a client can be made. -/
theorem openClient_of_reliable (reliable : w.faults = []) (url : String) :
    (w.openClient url).1 = .ok () := by
  have := ((announce_rest w (.connect url)).2.2 reliable).1
  unfold openClient
  split
  · rename_i fired
    rw [fired] at this
    cases this
  · rfl

/-- Only calls that store an object change one. -/
theorem object?_answer {c : Call} (h : c.stores? = none) (a : Address) :
    (answer c w).2.cluster.object? a = w.cluster.object? a := by
  rw [(answersAt_answer a c w).object]
  refine Part.objectAt_ignores ?_ _
  have : Event.stored? ⟨c, (answer c w).1⟩ = none := by
    cases c <;> first | rfl | cases h
  rw [Event.storedAt?, this]
  rfl

/-- Nothing is ever deleted. -/
theorem isSome_answer {a : Address} (h : (w.cluster.object? a).isSome) (c : Call) :
    ((answer c w).2.cluster.object? a).isSome := by
  rw [(answersAt_answer a c w).object]
  exact Part.objectAt_run_isSome h [_]

/-- The trace of a program that makes a call starts with it. -/
theorem trace_call {α : Type} {c : Call} (awake : c.isSleep = false) (k : c.Reply → Program α) :
    w.trace (.call c k) = ⟨c, (answer c w).1⟩ :: (answer c w).2.trace (k (answer c w).1) := by
  rw [trace, Program.trace, awake]
  rfl

theorem api_of_apis {v : World} (h : v.apis = w.apis) (url : String) : v.api url = w.api url := by
  rw [api, api, h]

/-- Other calls reach no interface and replace no pods. -/
theorem untouched_answer {c : Call} (h : c.isTalk = false) :
    (∀ url, (answer c w).2.api url = w.api url) ∧
      (answer c w).2.cluster.restarts = w.cluster.restarts := by
  rcases answer_cases c w with ⟨α, f, same, reaches⟩ | ⟨α, url, f, -, talk⟩ | ⟨cluster, apis, -⟩
  · have quiet (ns name : String) : c ≠ .restart ns name := by
      rintro rfl
      cases h
    rw [same]
    obtain ⟨apis, -, ⟨-, -, cluster⟩ | ⟨-, cluster⟩⟩ := askCluster_cases w c f
    · exact ⟨api_of_apis apis, by rw [cluster]⟩
    · exact ⟨api_of_apis apis, by rw [cluster, reaches.restarts quiet]⟩
  · rw [talk] at h
    cases h
  · exact ⟨api_of_apis apis, congrArg _ cluster⟩

end World

end Simulation

namespace Standpoint

open World (answer)

variable {S : Standpoint} {w v w' : World}

theorem Same.refl (reliable : w.faults = []) (stands : ∀ a, S.Stands a → (w.cluster.object? a).isSome) :
    S.Same w w where
  reliable := ⟨reliable, reliable⟩
  objects a := ⟨.refl _ _, fun h => ⟨stands a h, stands a h⟩⟩
  keys _ := rfl
  apis _ _ := rfl
  restarts _ := rfl

/-- A world without faults stays as good as it was. -/
theorem Same.refl_answer (h : S.Same w w) (c : Call) : S.Same (answer c w).2 (answer c w).2 :=
  .refl (World.faults_answer c w h.reliable.1) fun a known =>
    World.isSome_answer ((h.objects a).2 known).1 c

theorem Calls.writes {c : Call} {o : Object} (calls : S.Calls c) (stores : c.stores? = some o) :
    S.Writes o := by
  cases c <;> simp [Call.stores?] at stores <;> exact stores ▸ calls

/-- What a program may store is stored alike in places that are alike. -/
theorem Finds.after {a : Address} {o o' : Option Object} {e : Event} (h : S.Finds a o o')
    (calls : S.Calls e.call) :
    S.Finds a ((Part.objectAt a).after o e) ((Part.objectAt a).after o' e) := by
  cases stores : e.storedAt? a with
  | none => rwa [Part.objectAt_ignores stores, Part.objectAt_ignores stores]
  | some new =>
    obtain ⟨stored, here⟩ := Event.storedAt?_eq_some.1 stores
    have writes : S.Writes new := calls.writes (Event.stores?_of_stored stored)
    have whole := S.whole_of_writes new writes
    rw [here] at whole
    rw [Part.objectAt_after_of_stored stores, Part.objectAt_after_of_stored stores, h.eq whole]
    exact ⟨.refl _ _, fun _ => ⟨rfl, rfl⟩⟩

namespace Same

/-- What talks to the interfaces hears the same and leaves them the same. -/
theorem talk (h : S.Same w v) {c : Call} (calls : S.Calls c) (talk : c.isTalk) :
    (answer c w).1 = (answer c v).1 ∧
      (∀ url, (answer c w).2.api url = (answer c v).2.api url) ∧
      (answer c w).2.cluster.restarts = (answer c v).2.cluster.restarts := by
  obtain ⟨hw, hv⟩ := h.reliable
  have ask (talks : S.talks) {α : Type} (c : Call) (url : String)
      (f : ApiServer → Except ApiError α × ApiServer) :
      (w.askApi c url f).1 = (v.askApi c url f).1 ∧
        (∀ u, (w.askApi c url f).2.api u = (v.askApi c url f).2.api u) ∧
        (w.askApi c url f).2.cluster.restarts = (v.askApi c url f).2.cluster.restarts := by
    obtain ⟨rw₁, rw₂⟩ := World.askApi_of_reliable hw c url f
    obtain ⟨rv₁, rv₂⟩ := World.askApi_of_reliable hv c url f
    refine ⟨by rw [rw₁, rv₁, h.apis talks], fun u => by rw [rw₂, rv₂, h.apis talks, h.apis talks], ?_⟩
    rw [(World.askApi_cases w c url f).1, (World.askApi_cases v c url f).1, h.restarts talks]
  cases c with
  | restart ns name =>
    have stand : (w.cluster.object? ⟨.deployment, ns, name⟩).isNone =
        (v.cluster.object? ⟨.deployment, ns, name⟩).isNone := by
      have finds := h.objects ⟨.deployment, ns, name⟩
      rcases calls.2 with whole | stands
      · rw [finds.eq whole]
      · rw [Option.isNone_eq_false_iff.2 (finds.2 stands).1,
          Option.isNone_eq_false_iff.2 (finds.2 stands).2]
    obtain ⟨rw₁, rw₂⟩ := World.askCluster_of_reliable hw (.restart ns name) (·.restart ns name)
    obtain ⟨rv₁, rv₂⟩ := World.askCluster_of_reliable hv (.restart ns name) (·.restart ns name)
    have restarted := Cluster.restart_congr stand (h.restarts calls.1)
    refine ⟨rw₁.trans (restarted.1.trans rv₁.symm), fun url => ?_,
      (congrArg _ rw₂).trans (restarted.2.trans (congrArg _ rv₂.symm))⟩
    exact (World.api_of_apis (World.askCluster_cases w _ _).1 url).trans
      ((h.apis calls.1 url).trans (World.api_of_apis (World.askCluster_cases v _ _).1 url).symm)
  | status _ => exact ask calls ..
  | signUp _ _ => exact ask calls ..
  | logIn _ _ => exact ask calls ..
  | changePassword _ _ _ => exact ask calls ..
  | putRouter _ _ _ => exact ask calls ..
  | _ => cases talk

/-- In worlds that are the same a program gets answers that are alike. -/
theorem alike (h : S.Same w v) {c : Call} (calls : S.Calls c) :
    S.Alike c (answer c w).1 (answer c v).1 := by
  obtain ⟨hw, hv⟩ := h.reliable
  cases c with
  | get a =>
    exact ⟨_, _, World.get_of_reliable hw a, World.get_of_reliable hv a, h.objects a⟩
  | create o =>
    have created : (w.cluster.create o).1 = (v.cluster.create o).1 := by
      unfold Cluster.create
      rw [(h.objects o.address).eq (S.whole_of_writes o calls)]
      split <;> rfl
    exact (World.askCluster_of_reliable hw (.create o) (·.create o)).1.trans
      (created.trans (World.askCluster_of_reliable hv (.create o) (·.create o)).1.symm)
  | apply o =>
    exact (World.askCluster_of_reliable hw (.apply o) (·.apply o)).1.trans
      (World.askCluster_of_reliable hv (.apply o) (·.apply o)).1.symm
  | connect url =>
    exact (World.openClient_of_reliable hw url).trans (World.openClient_of_reliable hv url).symm
  | sleep d => trivial
  | drawKey => exact congrArg KeyPair.mk (h.keys calls)
  | restart _ _ => exact (h.talk calls rfl).1
  | status _ => exact (h.talk calls rfl).1
  | signUp _ _ => exact (h.talk calls rfl).1
  | logIn _ _ => exact (h.talk calls rfl).1
  | changePassword _ _ _ => exact (h.talk calls rfl).1
  | putRouter _ _ _ => exact (h.talk calls rfl).1
  | _ => cases calls

/-- The worlds stay the same when a program makes a call in both of them. -/
theorem answer (h : S.Same w v) {c : Call} (calls : S.Calls c) :
    S.Same (answer c w).2 (answer c v).2 where
  reliable := ⟨World.faults_answer c w h.reliable.1, World.faults_answer c v h.reliable.2⟩
  objects a := by
    cases stores : c.stores? with
    | none =>
      rw [World.object?_answer stores, World.object?_answer stores]
      exact h.objects a
    | some o =>
      have same : HEq (World.answer c w).1 (World.answer c v).1 := by
        have alike := h.alike calls
        cases c <;> first | exact heq_of_eq alike | cases stores
      rw [(World.answersAt_answer a c w).object, (World.answersAt_answer a c v).object, eq_of_heq same]
      exact (h.objects a).after calls
  keys draws := by
    by_cases key : c = .drawKey
    · subst key
      exact congrArg (· + 1) (h.keys draws)
    · rw [World.keysDrawn_answer key, World.keysDrawn_answer key, h.keys draws]
  apis talks url := by
    cases talk : c.isTalk with
    | true => exact (h.talk calls talk).2.1 url
    | false =>
      rw [(World.untouched_answer talk).1, (World.untouched_answer talk).1, h.apis talks]
  restarts talks := by
    cases talk : c.isTalk with
    | true => exact (h.talk calls talk).2.2
    | false =>
      rw [(World.untouched_answer talk).2, (World.untouched_answer talk).2, h.restarts talks]

/-- They also stay the same when others make a call that goes unnoticed. -/
theorem overlook (h : S.Same w v) {c : Call} (overlooked : S.Overlooks c) :
    S.Same (World.answer c w).2 v where
  reliable := ⟨World.faults_answer c w h.reliable.1, h.reliable.2⟩
  objects a := by
    have stands (known : S.Stands a) := World.isSome_answer ((h.objects a).2 known).1 c
    refine ⟨Regard.Alike.trans ?_ (h.objects a).1, fun known => ⟨stands known, ((h.objects a).2 known).2⟩⟩
    rw [(World.answersAt_answer a c w).object]
    rcases Part.objectAt_after_cases a (w.cluster.object? a) ⟨c, (World.answer c w).1⟩ with
      ⟨same, -⟩ | ⟨o, stored, here, now⟩
    · rw [same]
      exact .refl _ _
    · rw [now]
      have := overlooked.stores o (Event.stores?_of_stored stored)
      rw [here] at this
      exact this.alike _
  keys draws := by
    have key : c ≠ .drawKey := fun key => by simp [overlooked.key key] at draws
    rw [World.keysDrawn_answer key, h.keys draws]
  apis talks url := by
    have talk : c.isTalk = false :=
      Bool.eq_false_iff.2 fun talk => by simp [overlooked.talk talk] at talks
    rw [(World.untouched_answer talk).1, h.apis talks]
  restarts talks := by
    have talk : c.isTalk = false :=
      Bool.eq_false_iff.2 fun talk => by simp [overlooked.talk talk] at talks
    rw [(World.untouched_answer talk).2, h.restarts talks]

end Same

theorem overlooks_sleep (d : Duration) : S.Overlooks (.sleep d) :=
  ⟨by simp [Call.stores?], by simp [Call.isTalk], by simp⟩

/-- Whoever is prepared for an answer is prepared for one like it. -/
theorem Expects.alike {c : Call} {r r' : c.Reply} (h : S.Expects ⟨c, r'⟩) (alike : S.Alike c r r') :
    S.Expects ⟨c, r⟩ := by
  cases c <;> first | exact .inr rfl | exact alike ▸ h

namespace Steady

variable {α : Type} {Q : α → Prop} {p : Program α} {l : List Event} {a : α}

/-- A program that only sleeps leaves all as it is. -/
theorem asleep (steady : S.Steady Q p) (plays : p.Plays [] a) (same : S.Same w v) :
    (v.run p).1 = a ∧ S.Same w (v.run p).2 ∧ v.trace p = [] := by
  generalize none : ([] : List Event) = t at plays
  induction plays generalizing v with
  | pure a => exact ⟨rfl, same, rfl⟩
  | call => cases none
  | @sleep d k t a isTurn rest ih =>
    obtain ⟨goesOn, steady⟩ := steady.2 isTurn (v.wait d).1 trivial (.inr rfl)
    have same := (same.symm.overlook (overlooks_sleep d)).symm
    have awake := ih steady same none
    rw [goesOn] at awake
    exact awake

/-- Before a program makes a call it may have slept. -/
theorem wake {e : Event} (steady : S.Steady Q p) (plays : p.Plays (e :: l) a) (same : S.Same w v) :
    ∃ k v', e.call.isSleep = false ∧ (k e.reply).Plays l a ∧ S.Steady Q (.call e.call k) ∧
      S.Same w v' ∧ v.run p = v'.run (.call e.call k) ∧ v.trace p = v'.trace (.call e.call k) := by
  generalize cons : e :: l = t at plays
  induction plays generalizing v with
  | pure a => cases cons
  | @call c k t a awake r rest =>
    obtain ⟨rfl, rfl⟩ := List.cons.inj cons
    exact ⟨k, v, awake, rest, steady, same, rfl, rfl⟩
  | @sleep d k t a isTurn rest ih =>
    obtain ⟨goesOn, steady⟩ := steady.2 isTurn (v.wait d).1 trivial (.inr rfl)
    have same := (same.symm.overlook (overlooks_sleep d)).symm
    have awake := ih steady same cons
    rw [goesOn] at awake
    exact awake

/-- Beside others that do nothing it would notice, a program does what it would do alone in a world that
is the same to it. -/
theorem project {r t : List Event} (steady : S.Steady Q p) (plays : p.Plays l a)
    (apart : Interleaving l r t) (overlooked : ∀ e ∈ r, S.Overlooks e.call) (follows : w.Follows t w')
    (same : S.Same w v)
    (expected : (∀ e ∈ l, S.Expects e) ∨ ∀ e ∈ v.trace p, S.Expects e) :
    (v.run p).1 = a ∧ S.Same w' (v.run p).2 ∧ (∀ e ∈ l, S.Calls e.call) ∧
      ∀ e ∈ v.trace p, S.Calls e.call := by
  induction follows generalizing p l r v with
  | done w =>
    cases apart
    obtain ⟨result, same, none⟩ := steady.asleep plays same
    exact ⟨result, same, by simp, by simp [none]⟩
  | sleep d _ ih =>
    exact ih steady plays apart overlooked (same.overlook (overlooks_sleep d)) expected
  | @call w w' t c awake _ ih =>
    cases apart with
    | right _ rest =>
      exact ih steady plays rest (fun e he => overlooked e (by simp [he]))
        (same.overlook (overlooked _ List.mem_cons_self)) expected
    | left _ rest =>
      obtain ⟨k, v', -, plays, steady, same, run, trace⟩ := steady.wake plays same
      rw [World.trace_call awake] at trace
      rw [run, trace]
      have alike := same.alike steady.1
      have expects : S.Expects ⟨c, (World.answer c w).1⟩ := by
        rcases expected with expected | expected
        · exact expected _ List.mem_cons_self
        · exact Expects.alike (expected _ (trace ▸ List.mem_cons_self)) alike
      obtain ⟨goesOn, steady'⟩ := steady.2 _ _ alike expects
      rw [goesOn] at plays steady'
      obtain ⟨result, same', beside, alone⟩ := ih steady' plays rest overlooked (same.answer steady.1)
        (expected.imp (fun h e he => h e (by simp [he])) fun h e he => h e (by simp [trace, he]))
      exact ⟨result, same', List.forall_mem_cons.2 ⟨steady.1, beside⟩,
        List.forall_mem_cons.2 ⟨steady.1, alone⟩⟩

end Steady

/-- In a world without faults every answer is like itself. -/
theorem alike_of_follows {t : List Event} (same : S.Same w w) (follows : w.Follows t w') :
    ∀ e ∈ t, S.Alike e.call e.reply e.reply := by
  induction follows with
  | done w => simp
  | sleep d _ ih => exact ih (same.refl_answer _)
  | @call w w' t c awake _ ih =>
    intro e he
    rcases List.mem_cons.1 he with rfl | he
    · cases c with
      | get a =>
        have found := World.get_of_reliable same.reliable.1 a
        exact ⟨_, _, found, found, same.objects a⟩
      | sleep d => trivial
      | _ => rfl
    · exact ih (same.refl_answer _) e he

/-- A program that is prepared for whatever it hears makes only the calls of its standpoint. -/
theorem Steady.calls {α : Type} {Q : α → Prop} {p : Program α} {l : List Event} {a : α}
    (steady : S.Steady Q p) (copes : S.copes) (plays : p.Plays l a)
    (alike : ∀ e ∈ l, S.Alike e.call e.reply e.reply) : ∀ e ∈ l, S.Calls e.call := by
  induction plays with
  | pure a => simp
  | @call c k t a awake r rest ih =>
    intro e he
    rcases List.mem_cons.1 he with rfl | he
    · exact steady.1
    · have goesOn := (steady.2 r r (alike _ List.mem_cons_self) (.inl copes)).2
      exact ih goesOn (fun e he => alike e (by simp [he])) e he
  | @sleep d k t a isTurn rest ih =>
    exact ih (steady.2 isTurn isTurn trivial (.inl copes)).2 alike

/-- So does one that runs alone. -/
theorem Steady.calls_alone {α : Type} {Q : α → Prop} {p : Program α} (steady : S.Steady Q p)
    (copes : S.copes) (same : S.Same w w) : ∀ e ∈ w.trace p, S.Calls e.call :=
  steady.calls copes (w.plays_trace p) (alike_of_follows same (w.follows_trace p))

/-- Whether whatever keeps to another standpoint goes unnoticed. -/
structure Ignores (S S' : Standpoint) : Prop where
  writes : ∀ o, S'.Writes o → (S.regard o.address).Overlooks o
  talks : S'.talks → S.talks = false
  draws : S'.draws → S.draws = false

theorem Ignores.overlooks {S' : Standpoint} (h : S.Ignores S') {c : Call} (calls : S'.Calls c) :
    S.Overlooks c where
  stores o stored := h.writes o (calls.writes stored)
  talk talk := h.talks (by
    cases c with
    | restart _ _ => exact calls.1
    | _ => first | exact calls | cases talk)
  key key := h.draws (by
    subst key
    exact calls)

theorem Ignores.overlooks_all {S' : Standpoint} (h : S.Ignores S') {t : List Event}
    (calls : ∀ e ∈ t, S'.Calls e.call) : ∀ e ∈ t, S.Overlooks e.call :=
  fun e he => h.overlooks (calls e he)

/-- Whether two programs go unnoticed from each other's standpoint. -/
def Apart (S S' : Standpoint) : Prop := S.Ignores S' ∧ S'.Ignores S

/-- A world stays the same to those who notice nothing of what happens in it. -/
theorem Same.beside {t : List Event} (same : S.Same v w) (follows : w.Follows t w')
    (overlooked : ∀ e ∈ t, S.Overlooks e.call) : S.Same v w' :=
  follows.keeps (I := fun w => S.Same v w) (fun d _ h => (h.symm.overlook (overlooks_sleep d)).symm)
    (fun e he _ h => (h.symm.overlook (overlooked e he)).symm) same

/-- Whoever does not regard the whole of an object does not write it. -/
theorem Calls.unstored {e : Event} {a : Address} (calls : S.Calls e.call) (h : S.regard a ≠ .whole) :
    e.storedAt? a = none := by
  refine Option.eq_none_iff_forall_ne_some.2 fun o stores => h ?_
  obtain ⟨stored, rfl⟩ := Event.storedAt?_eq_some.1 stores
  exact S.whole_of_writes o (calls.writes (Event.stores?_of_stored stored))

section Three

variable {α : Type} {Q₁ Q₂ Q₃ : α → Prop} {S₁ S₂ S₃ : Standpoint} {p₁ p₂ p₃ : Program α}
  {t l₁ l₂ l₃ u : List Event} {a₁ a₂ a₃ : α}

/-- Three programs that go unnoticed from each other's standpoint do side by side what they do one after
another. The one in the middle has to be prepared for what it hears, in either way of running them. -/
theorem confluent
    (steady₁ : S₁.Steady Q₁ p₁) (steady₂ : S₂.Steady Q₂ p₂) (steady₃ : S₃.Steady Q₃ p₃)
    (copes₁ : S₁.copes) (copes₃ : S₃.copes)
    (apart₁₂ : S₁.Apart S₂) (apart₁₃ : S₁.Apart S₃) (apart₂₃ : S₂.Apart S₃)
    (same₁ : S₁.Same w w) (same₂ : S₂.Same w w) (same₃ : S₃.Same w w)
    (turns : Interleaving l₁ u t) (othersTurns : Interleaving l₂ l₃ u) (follows : w.Follows t w')
    (plays₁ : p₁.Plays l₁ a₁) (plays₂ : p₂.Plays l₂ a₂) (plays₃ : p₃.Plays l₃ a₃)
    (expected : (∀ e ∈ l₂, S₂.Expects e) ∨ ∀ e ∈ (w.run p₁).2.trace p₂, S₂.Expects e) :
    let v₁ := w.run p₁
    let v₂ := v₁.2.run p₂
    let v₃ := v₂.2.run p₃
    (v₁.1 = a₁ ∧ v₂.1 = a₂ ∧ v₃.1 = a₃) ∧
      (∀ a, w'.cluster.object? a = v₃.2.cluster.object? a) ∧ S₂.Same w' v₃.2 := by
  intro v₁ v₂ v₃
  obtain ⟨u₂, turns₂, others₂⟩ := turns.regroup othersTurns
  obtain ⟨u₃, turns₃, others₃⟩ := turns.regroup othersTurns.swap
  have calls₁ : ∀ e ∈ l₁, S₁.Calls e.call := steady₁.calls copes₁ plays₁ fun e he =>
    alike_of_follows same₁ follows e (turns.mem_iff.2 (.inl he))
  have calls₃ : ∀ e ∈ l₃, S₃.Calls e.call := steady₃.calls copes₃ plays₃ fun e he =>
    alike_of_follows same₃ follows e (turns₃.mem_iff.2 (.inl he))
  -- The first goes unnoticed when it runs alone, so the second finds what it finds beside the others.
  have follows₁ := w.follows_trace p₁
  have alone₁ : ∀ e ∈ w.trace p₁, S₁.Calls e.call := steady₁.calls_alone copes₁ same₁
  have before₂ : S₂.Same w v₁.2 := same₂.beside follows₁ (apart₁₂.2.overlooks_all alone₁)
  obtain ⟨result₂, end₂, calls₂, alone₂⟩ := steady₂.project plays₂ turns₂
    (others₂.forall_mem (apart₁₂.2.overlooks_all calls₁) (apart₂₃.1.overlooks_all calls₃)) follows
    before₂ expected
  have follows₂ := v₁.2.follows_trace p₂
  have before₃ : S₃.Same w v₂.2 :=
    (same₃.beside follows₁ (apart₁₃.2.overlooks_all alone₁)).beside follows₂
      (apart₂₃.2.overlooks_all alone₂)
  obtain ⟨result₃, end₃, -, alone₃⟩ := steady₃.project plays₃ turns₃
    (others₃.forall_mem (apart₁₃.2.overlooks_all calls₁) (apart₂₃.2.overlooks_all calls₂)) follows
    before₃ (.inl fun _ _ => .inl copes₃)
  have follows₃ := v₂.2.follows_trace p₃
  obtain ⟨result₁, end₁, -⟩ := steady₁.project plays₁ turns
    (othersTurns.forall_mem (apart₁₂.1.overlooks_all calls₂) (apart₁₃.1.overlooks_all calls₃)) follows
    same₁ (.inl fun _ _ => .inl copes₁)
  have end₂ : S₂.Same w' v₃.2 := end₂.beside follows₃ (apart₂₃.1.overlooks_all alone₃)
  refine ⟨⟨result₁, result₂, result₃⟩, fun a => ?_, end₂⟩
  -- An object is regarded as a whole by whoever writes it, or it is as it was before.
  by_cases whole₁ : S₁.regard a = .whole
  · have end₁ : S₁.Same w' v₃.2 := (end₁.beside follows₂ (apart₁₂.1.overlooks_all alone₂)).beside
      follows₃ (apart₁₃.1.overlooks_all alone₃)
    exact (end₁.objects a).eq whole₁
  by_cases whole₂ : S₂.regard a = .whole
  · exact (end₂.objects a).eq whole₂
  by_cases whole₃ : S₃.regard a = .whole
  · exact (end₃.objects a).eq whole₃
  rw [follows₃.object?_of_unstored fun e he => (alone₃ e he).unstored whole₃,
    follows₂.object?_of_unstored fun e he => (alone₂ e he).unstored whole₂,
    follows₁.object?_of_unstored fun e he => (alone₁ e he).unstored whole₁]
  exact follows.object?_of_unstored <| turns.forall_mem (fun e he => (calls₁ e he).unstored whole₁) <|
    othersTurns.forall_mem (fun e he => (calls₂ e he).unstored whole₂)
      fun e he => (calls₃ e he).unstored whole₃

end Three

end Standpoint

end EdgePlane
