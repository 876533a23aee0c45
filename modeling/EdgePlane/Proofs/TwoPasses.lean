import EdgePlane.Proofs.Progress

/-!
# Two passes

A pass over a control plane whose scene is amenable leaves the controller deployed and the scene amenable.
It leaves the control plane ready, too, if the controller was deployed and the addresses from outside were
known. So a second pass makes it ready at the latest if by then load balancers have been given their
addresses. From then on a pass looks the control plane up and stops.
-/

namespace EdgePlane

open Kubernetes Simulation
open ControlPlane (Phase Condition)
open Simulation.Cluster (placeOf)

namespace Settings

variable {environment : String → Option String}

/-- What follows a reading that is right. -/
theorem exists_of_bind_ok {ε α β : Type} {x : Except ε α} {f : α → Except ε β} {b : β}
    (h : (x >>= f) = .ok b) : ∃ a, x = .ok a ∧ f a = .ok b := by
  cases x with
  | error e => cases h
  | ok a => exact ⟨a, rfl, h⟩

theorem attempts_ne_zero {n : Nat} (read : attempts environment = .ok n) : n ≠ 0 := by
  obtain ⟨found, -, chosen⟩ := exists_of_bind_ok read
  cases found with
  | none =>
    cases chosen
    decide
  | some m =>
    dsimp only at chosen
    split at chosen
    · cases chosen
    split at chosen
    · cases chosen
    · rename_i notZero
      cases chosen
      exact notZero

/-- The operator makes an attempt at least, whatever its environment says. -/
theorem attempts_of_load {settings : Settings} (loaded : load environment = .ok settings) :
    settings.retry.attempts ≠ 0 := by
  obtain ⟨n, read, loaded⟩ := exists_of_bind_ok loaded
  obtain ⟨_, -, loaded⟩ := exists_of_bind_ok loaded
  obtain ⟨_, -, loaded⟩ := exists_of_bind_ok loaded
  obtain ⟨_, -, loaded⟩ := exists_of_bind_ok loaded
  cases loaded
  exact attempts_ne_zero read
end Settings

/-- Whether the load balancer of a service is given an address. -/
def Simulation.Happening.isAssignment : Happening → Bool
  | .assign _ _ _ => true
  | _ => false

namespace Reconcile

variable {settings : Setup} {cp : ControlPlane} {target : Target} {ns name : String} {s s' : Scene}

/-- How an attempt that gets on is settled. -/
theorem Progresses.settle {pem : PemReader} {x : Attempt Outcome} {Q : Except Failure Outcome → Scene → Prop}
    {P : Outcome → Scene → Prop} (hx : Progresses pem cp ns Q x s) (amenable : Amenable pem cp ns s)
    (done : ∀ o s', Q (.ok o) s' → P o s') (failed : ∀ e s', Q (.error e) s' → P (.failed e) s') :
    (EdgePlane.settle x).Finishes (fun o s' => Keeps pem cp ns s s' ∧ P o s') s :=
  Program.Finishes.bind (hx amenable) fun r s' ⟨keeps, h⟩ => match r with
    | .ok o => ⟨keeps, done o s' h⟩
    | .error e => ⟨keeps, failed e s' h⟩

section Converge

variable (attempts : settings.retry.attempts ≠ 0) (htarget : Target.of cp = .ok target)
  (amenable : Amenable settings.pem cp target.namespaceName s)
include htarget amenable

theorem finishes_router : (router settings cp).Finishes (fun o s' =>
    Keeps settings.pem cp target.namespaceName s s' ∧ (Exposed cp target.namespaceName s → o = .proceed)) s :=
  (progresses_attemptRouter htarget).settle amenable (fun _ _ h exposed => Except.ok.inj (h exposed))
    fun _ _ h exposed => by cases h exposed

theorem finishes_portManager : (portManager settings cp).Finishes (fun o s' =>
    Keeps settings.pem cp target.namespaceName s s' ∧ o = .proceed) s := by
  refine (fares_attemptPortManager htarget).settle amenable ?_ ?_
  · rintro _ s' ⟨o, ⟨⟩, rfl⟩
    rfl
  · rintro e s' ⟨o, ⟨⟩, -⟩

include attempts

theorem finishes_controller : (controller settings cp).Finishes (fun o s' =>
    Keeps settings.pem cp target.namespaceName s s' ∧ IsDeployed target.namespaceName s' ∧
      (Exposed cp target.namespaceName s → IsDeployed target.namespaceName s → o = .proceed)) s :=
  (progresses_attemptController attempts htarget).settle amenable
    (fun _ _ h => ⟨h.1, fun exposed deployed => Except.ok.inj (h.2 exposed deployed)⟩)
    fun _ _ h => ⟨h.1, fun exposed deployed => by cases h.2 exposed deployed⟩

/-- The parts run one after another, each in the scene that the one before has left. -/
theorem finishes_converge : (converge settings cp).Finishes (fun o s' =>
    Keeps settings.pem cp target.namespaceName s s' ∧ IsDeployed target.namespaceName s' ∧
      (Exposed cp target.namespaceName s → IsDeployed target.namespaceName s → o.isClean)) s := by
  have joined : (Program.joinAll
      [router settings cp, controller settings cp, portManager settings cp]).Finishes (fun outcomes s' =>
        Keeps settings.pem cp target.namespaceName s s' ∧ IsDeployed target.namespaceName s' ∧
        (Exposed cp target.namespaceName s → IsDeployed target.namespaceName s →
          ∀ o ∈ outcomes, o = .proceed)) s := by
    refine (finishes_router htarget amenable).joinAll fun ro s₁ ⟨keeps₁, routed⟩ => ?_
    have amenable₁ := keeps₁.amenable amenable
    refine (finishes_controller attempts htarget amenable₁).joinAll
      fun co s₂ ⟨keeps₂, deployed, controlled⟩ => ?_
    have amenable₂ := keeps₂.amenable amenable₁
    refine (finishes_portManager htarget amenable₂).joinAll fun mo s₃ ⟨keeps₃, managed⟩ => ?_
    refine ⟨(keeps₁.trans keeps₂).trans keeps₃, keeps₃.stands _ deployed, fun exposed stood => ?_⟩
    simp [routed exposed, controlled (keeps₁.exposed exposed) (keeps₁.stands _ stood), managed]
  refine joined.bind fun outcomes s' ⟨keeps, deployed, proceed⟩ =>
    ⟨keeps, deployed, fun exposed stood => ?_⟩
  rw [Outcome.isClean_mergeAll, List.all_eq_true]
  intro o ho
  rw [proceed exposed stood o ho]
  rfl

end Converge

/-- The status of a control plane that has entered a phase: a single condition. -/
def enteredStatus (phase : Phase) (time : Instant) : ControlPlane.Status :=
  ⟨[Condition.active phase.conditionType time]⟩

theorem succeeds_enter {phase : Phase} {stored : ControlPlane}
    (found : s.declared (placeOf cp) = some stored) :
    (enter cp phase).Succeeds (fun _ s' => ∃ time, s' = s.declare (placeOf cp)
      { stored with status := some (enteredStatus phase time) }) s := by
  have told : (Attempt.ofProgram (.perform .now)).Succeeds (fun _ s' => s' = s) s :=
    Attempt.succeeds_ofProgram (.perform (c := .now) rfl fun _ _ => Scene.answers_now)
  refine told.bind ?_
  rintro time _ rfl
  refine ⟨rfl, fun r s' answered => ?_⟩
  obtain ⟨rfl, rfl⟩ := Scene.answers_record found answered
  exact ⟨(), rfl, time, rfl⟩

/-- Nothing but secrets and interfaces is in the way of what a control plane declares. -/
theorem Amenable.congr {pem : PemReader} {cp' : ControlPlane} (h : Amenable pem cp ns s)
    (spec : cp'.spec = cp.spec)
    (secrets : ∀ name, s'.objects ⟨.secret, ns, name⟩ = s.objects ⟨.secret, ns, name⟩)
    (apis : s'.apis = s.apis) : Amenable pem cp' ns s' where
  pull := by
    rw [spec, secretAt?, secrets]
    exact h.pull
  authority := by
    rw [secretAt?, secrets]
    exact h.authority
  serves := by
    rw [apis]
    exact h.serves
  welcomes := by
    rw [spec, apis, credentialsAddress, secrets]
    exact h.welcomes

/-- What a pass over a control plane leaves: the control plane ready, or deploying if the addresses were
not all known or the controller not deployed. -/
structure Passed (pem : PemReader) (cp : ControlPlane) (ns name : String) (s s' : Scene) : Prop where
  amenable : Amenable pem cp ns s'
  deployed : IsDeployed ns s'
  declared : ∃ status, s'.declared (ns, name) = some { cp with status } ∧
    ((∃ time, status = some (enteredStatus .ready time)) ∨
      ({ cp with status } : ControlPlane).phase = some .deploying ∧
        ¬ (Exposed cp ns s ∧ IsDeployed ns s))

section Pass

variable (attempts : settings.retry.attempts ≠ 0) (htarget : Target.of cp = .ok target)
  (place : placeOf cp = (target.namespaceName, name))
  (amenable : Amenable settings.pem cp target.namespaceName s)
include attempts htarget place amenable

theorem finishes_deploy {status : Option ControlPlane.Status}
    (found : s.declared (target.namespaceName, name) = some { cp with status })
    (deploying : ({ cp with status } : ControlPlane).phase = some .deploying) :
    (deploy settings cp).Finishes (fun _ s' => Passed settings.pem cp target.namespaceName name s s') s := by
  refine (finishes_converge attempts htarget amenable).bind fun o s₁ ⟨keeps, deployed, clean⟩ => ?_
  have amenable₁ := keeps.amenable amenable
  have found₁ : s₁.declared (target.namespaceName, name) = some { cp with status } := by
    rw [keeps.declared, found]
  split
  · refine finishes_settle ((succeeds_enter (place ▸ found₁)).bind fun _ s₂ ⟨time, h⟩ => ?_)
    subst h
    rw [place]
    exact .pure ⟨_, rfl, amenable₁.congr rfl (fun _ => rfl) rfl, deployed,
      some (enteredStatus .ready time), Function.update_self .., .inl ⟨time, rfl⟩⟩
  · rename_i unclean
    exact ⟨amenable₁, deployed, status, found₁, .inr ⟨deploying, fun ⟨exposed, stood⟩ =>
      unclean (clean exposed stood)⟩⟩

/-- A pass over a control plane that is not ready. -/
theorem finishes_dispatch (found : s.declared (target.namespaceName, name) = some cp)
    (notReady : cp.phase ≠ some .ready) :
    (dispatch settings target.namespaceName name).Finishes
      (fun _ s' => Passed settings.pem cp target.namespaceName name s s') s := by
  have fetched : (Program.perform (.fetch target.namespaceName name)).Finishes
      (fun r s' => r = .ok (some cp) ∧ s' = s) s := .perform rfl fun r s' answered => by
    obtain ⟨rfl, rfl⟩ := Scene.answers_fetch answered
    exact ⟨by rw [found], rfl⟩
  refine fetched.bind ?_
  rintro _ s ⟨rfl, rfl⟩
  change (advance settings cp).Finishes _ _
  unfold advance
  cases phase : cp.phase with
  | none =>
    refine finishes_settle ((succeeds_enter (place ▸ found)).bind fun _ s₁ ⟨time, h⟩ => ?_)
    subst h
    rw [place]
    have amenable₁ : Amenable settings.pem cp target.namespaceName (s.declare (target.namespaceName, name)
        { cp with status := some (enteredStatus .deploying time) }) :=
      amenable.congr rfl (fun _ => rfl) rfl
    have deployed := finishes_deploy attempts htarget place amenable₁ (Function.update_self ..)
      (ControlPlane.phaseOf_active .deploying time)
    refine Attempt.succeeds_ofProgram (deployed.mono fun _ s' passed => ?_)
    obtain ⟨status, found', now⟩ := passed.declared
    exact ⟨passed.amenable, passed.deployed, status, found', now.imp_right fun ⟨phase, missing⟩ =>
      ⟨phase, fun ⟨exposed, stood⟩ => missing ⟨⟨exposed.router, exposed.controller⟩, stood⟩⟩⟩
  | some phase' =>
    cases phase' with
    | ready => exact absurd phase notReady
    | deploying => exact finishes_deploy attempts htarget place amenable found phase

end Pass

section Idle

variable {w : World}

/-- A pass over a control plane that is ready looks it up and does nothing more. -/
theorem idle_of_ready (settings : Setup) (calm : w.Calm)
    (found : w.cluster.controlPlane? ns name = some cp) (ready : cp.phase = some .ready) :
    w.trace (dispatch settings ns name) = [⟨.fetch ns name, .ok (some cp)⟩] ∧
      w.run (dispatch settings ns name) =
        (.proceed, { w with log := w.log ++ ["get_control_plane " ++ ns ++ "/" ++ name] }) := by
  have answered : World.answer (.fetch ns name) w =
      (.ok (some cp), { w with log := w.log ++ ["get_control_plane " ++ ns ++ "/" ++ name] }) := by
    obtain ⟨faults, reads, -⟩ := calm
    simp [World.answer, World.askCluster, World.announce, callText, faults, Fault.trigger, Cluster.fetch,
      reads, found]
  have stops : advance settings cp = pure .proceed := by
    unfold advance
    rw [ready]
  have fetched : w.run (.perform (.fetch ns name)) = World.answer (.fetch ns name) w := rfl
  have seen : w.trace (.perform (.fetch ns name)) =
      [⟨.fetch ns name, (World.answer (.fetch ns name) w).1⟩] := rfl
  rw [dispatch, World.trace_bind, World.run_bind, fetched, seen, answered]
  dsimp only
  rw [stops]
  exact ⟨rfl, rfl⟩

/-- Whether a control plane is ready for good: that is its single condition, and a pass looks the control
plane up, stops, and leaves the world as it was. -/
structure Settled (settings : Setup) (w : World) (ns name : String) : Prop where
  ready : ∃ time, w.cluster.conditions ns name = [⟨"ready", "True", some time⟩]
  looks : ∃ cp, w.passTrace settings ns name = [⟨.fetch ns name, .ok (some cp)⟩]
  stops : (w.run (dispatch settings ns name)).1.decision = .stop
  untouched : w.happen settings (.pass ns name) =
    { w with log := w.log ++ ["get_control_plane " ++ ns ++ "/" ++ name] }

theorem settled_of_entered {time : Instant} (calm : w.Calm) (found : w.cluster.controlPlane? ns name =
      some { cp with status := some (enteredStatus .ready time) }) : Settled settings w ns name := by
  obtain ⟨trace, run⟩ := idle_of_ready settings calm found
    (ControlPlane.phaseOf_active .ready time)
  refine ⟨⟨time, ?_⟩, ⟨_, trace⟩, ?_, ?_⟩
  · rw [Cluster.conditions, found]
    rfl
  · rw [run]
    rfl
  · rw [World.happen, run]

/-- Another pass over a control plane that has entered the last phase leaves it ready for good. -/
theorem settled_of_idle {time : Instant} (calm : w.Calm) (found : w.cluster.controlPlane? ns name =
      some { cp with status := some (enteredStatus .ready time) }) :
    Settled settings (w.happen settings (.pass ns name)) ns name := by
  have idle := (idle_of_ready settings calm found (ControlPlane.phaseOf_active .ready time)).2
  rw [World.happen, idle]
  exact settled_of_entered ⟨calm.faults, calm.reads, calm.writes⟩ found

/-- A pass makes a control plane ready for good if the controller was deployed and the addresses from
outside are known. -/
theorem settled_of_pass (attempts : settings.retry.attempts ≠ 0) (htarget : Target.of cp = .ok target)
    (place : placeOf cp = (target.namespaceName, name)) (calm : w.Calm)
    (found : w.cluster.controlPlane? target.namespaceName name = some cp)
    (notReady : cp.phase ≠ some .ready) (amenable : Amenable settings.pem cp target.namespaceName w.scene)
    (exposed : Exposed cp target.namespaceName w.scene)
    (deployed : IsDeployed target.namespaceName w.scene) :
    Settled settings (w.happen settings (.pass target.namespaceName name)) target.namespaceName name := by
  obtain ⟨calm', passed⟩ := World.run_of_finishes calm
    (finishes_dispatch attempts htarget place amenable found notReady)
  obtain ⟨status, entered, ⟨time, rfl⟩ | ⟨-, missing⟩⟩ := passed.declared
  · exact settled_of_entered calm' entered
  · exact absurd ⟨exposed, deployed⟩ missing

end Idle

/-- Whether two worlds differ in services alone. -/
structure SameButServices (w w' : World) : Prop where
  calm : w.Calm → w'.Calm
  objects : ∀ a, a.kind ≠ .service → w'.cluster.object? a = w.cluster.object? a
  apis : w'.api = w.api
  controlPlanes : w'.cluster.controlPlanes = w.cluster.controlPlanes

/-- Load balancers that are given addresses change services alone. -/
theorem sameButServices_of_assignments (settings : Setup) {assignments : List Happening}
    (assigned : ∀ h ∈ assignments, h.isAssignment) (w : World) :
    SameButServices w (w.after settings assignments) := by
  refine World.after_keeps (fun h hh w' same => ?_) ⟨id, fun _ _ => rfl, rfl, rfl⟩
  cases h with
  | assign ns name ip =>
    have rest : (w'.cluster.assignAddress ns name ip).failsReads = w'.cluster.failsReads ∧
        (w'.cluster.assignAddress ns name ip).rejectsStatus = w'.cluster.rejectsStatus ∧
        (w'.cluster.assignAddress ns name ip).controlPlanes = w'.cluster.controlPlanes := by
      unfold Cluster.assignAddress
      dsimp only
      split <;> exact ⟨rfl, rfl, rfl⟩
    refine ⟨fun calm => ?_, fun a kind => ?_, same.apis, rest.2.2.trans same.controlPlanes⟩
    · obtain ⟨faults, reads, writes⟩ := same.calm calm
      exact ⟨faults, rest.1.trans reads, rest.2.1.trans writes⟩
    · exact (World.object?_assignAddress w'.cluster ns name ip kind).trans (same.objects a kind)
  | _ => cases assigned _ hh

theorem target_of {uid : String} (namespaceName : cp.metadata.namespaceName = some ns)
    (named : cp.metadata.name = some name) (identified : cp.metadata.uid = some uid) :
    ∃ owner, Target.of cp = .ok ⟨ns, owner⟩ := by
  simp [Target.of, ControlPlane.owner?, namespaceName, named, identified]

/-- Two passes make a control plane ready for good, if nothing is in its way and by the second one the
addresses from outside are known. The operator's environment always lets it make an attempt
(`Settings.attempts_of_load`). -/
theorem settled_of_two_passes (attempts : settings.retry.attempts ≠ 0) {w : World} {uid : String}
    (calm : w.Calm) (found : w.cluster.controlPlane? ns name = some cp)
    (namespaceName : cp.metadata.namespaceName = some ns) (named : cp.metadata.name = some name)
    (identified : cp.metadata.uid = some uid) (notReady : cp.phase ≠ some .ready)
    (amenable : Amenable settings.pem cp ns w.scene) {assignments : List Happening}
    (assigned : ∀ h ∈ assignments, h.isAssignment)
    (exposed : Exposed cp ns (w.after settings (.pass ns name :: assignments)).scene) :
    Settled settings (w.after settings (.pass ns name :: (assignments ++ [.pass ns name]))) ns name := by
  obtain ⟨owner, htarget⟩ := target_of namespaceName named identified
  have place : placeOf cp = (ns, name) := by simp [placeOf, namespaceName, named]
  obtain ⟨calm₁, passed⟩ := World.run_of_finishes calm
    (finishes_dispatch attempts htarget place amenable found notReady)
  have same := sameButServices_of_assignments settings assigned
    (w.happen settings (.pass ns name))
  obtain ⟨status, found₁, now⟩ := passed.declared
  have last : w.after settings (.pass ns name :: (assignments ++ [.pass ns name])) =
      (w.after settings (.pass ns name :: assignments)).happen settings (.pass ns name) := by
    simp [World.after]
  rw [last]
  -- What the first pass has left is there when the second one starts.
  have calm₂ : (w.after settings (.pass ns name :: assignments)).Calm := same.calm calm₁
  have found₂ : (w.after settings (.pass ns name :: assignments)).cluster.controlPlane? ns name =
      some { cp with status } := (congrArg (·.get? (ns, name)) same.controlPlanes).trans found₁
  have amenable₂ : Amenable settings.pem { cp with status } ns
      (w.after settings (.pass ns name :: assignments)).scene :=
    passed.amenable.congr rfl (fun _ => same.objects _ (by simp)) same.apis
  have deployed₂ : IsDeployed ns (w.after settings (.pass ns name :: assignments)).scene :=
    (congrArg Option.isSome (same.objects _ (by simp))).trans passed.deployed
  rcases now with ⟨time, rfl⟩ | ⟨deploying, -⟩
  · exact settled_of_idle calm₂ found₂
  · have htarget₂ : Target.of { cp with status } = .ok ⟨ns, owner⟩ := htarget
    have settled := settled_of_pass attempts htarget₂ place calm₂ found₂ (by simp [deploying]) amenable₂
      ⟨exposed.router, exposed.controller⟩ deployed₂
    exact settled

/-- A control plane behind load balancers. -/
def balancedControlPlane : ControlPlane :=
  let plain := plainControlPlane "a@b.c" (.ofPlain "two") { host := "db" }
  { plain with spec := { plain.spec with services := {}, images := { pullSecret := "pull" } } }

/-- A world with some of its objects, an authority among them, and with the user's old password. -/
def balancedWorld : World where
  cluster := (((({} : Cluster).insert
      (.secret { metadata := .named "ns" "pull", type := some pullSecretType })).insert
    (.secret (PortManager.credentialsSecret "ns" "a@b.c" (.ofPlain "one")))).insert
    (.secret ((KeyedCertificate.authority Router.authoritySecretName ⟨7⟩).authoritySecret
      Router.authoritySecretName "ns"))).insertControlPlane balancedControlPlane
  apis := Dict.insert {} (internalUrl "ns") (ApiServer.addUser {} "a@b.c" "one")

/-- Load balancers are found for the services that the first pass has stored. -/
def balancedAssignments : List Happening :=
  [.assign "ns" Router.name "203.0.113.7", .assign "ns" Controller.name "edge.example"]

theorem amenable_balancedWorld : Amenable .standard balancedControlPlane "ns" balancedWorld.scene where
  pull := .inr ⟨by decide, _, rfl, rfl⟩
  authority := by
    rintro _ ⟨⟩
    exact ⟨_, rfl⟩
  serves := ⟨by decide +kernel, by decide +kernel, by decide +kernel⟩
  welcomes := .held (Credential.ofPlain "one").encoded rfl (by decide +kernel) (by decide +kernel)

theorem exposed_balancedWorld : Exposed balancedControlPlane "ns"
    (balancedWorld.after .standard (.pass "ns" "ecn" :: balancedAssignments)).scene where
  router := ⟨"203.0.113.7", by decide +kernel, by decide, .inl (by decide +kernel)⟩
  controller _ := ⟨"edge.example", by decide +kernel, by decide +kernel, by decide +kernel,
    by decide +kernel⟩

theorem settled_of_balancedWorld :
    Setup.standard.retry.attempts ≠ 0 ∧ balancedWorld.Calm ∧
      balancedWorld.cluster.controlPlane? "ns" "ecn" = some balancedControlPlane ∧
      balancedControlPlane.metadata.namespaceName = some "ns" ∧
      balancedControlPlane.metadata.name = some "ecn" ∧
      balancedControlPlane.metadata.uid = some "u" ∧ balancedControlPlane.phase ≠ some .ready ∧
      Amenable .standard balancedControlPlane "ns" balancedWorld.scene ∧
      (∀ h ∈ balancedAssignments, h.isAssignment) ∧
      Exposed balancedControlPlane "ns"
        (balancedWorld.after .standard (.pass "ns" "ecn" :: balancedAssignments)).scene ∧
      Settled .standard (balancedWorld.after .standard
        (.pass "ns" "ecn" :: (balancedAssignments ++ [.pass "ns" "ecn"]))) "ns" "ecn" := by
  have attempts : Setup.standard.retry.attempts ≠ 0 := by decide
  have calm : balancedWorld.Calm := ⟨rfl, rfl, rfl⟩
  have found : balancedWorld.cluster.controlPlane? "ns" "ecn" = some balancedControlPlane := rfl
  have notReady : balancedControlPlane.phase ≠ some .ready := by decide
  have assigned : ∀ h ∈ balancedAssignments, h.isAssignment := by decide
  exact ⟨attempts, calm, found, rfl, rfl, rfl, notReady, amenable_balancedWorld, assigned,
    exposed_balancedWorld, settled_of_two_passes attempts calm found rfl rfl rfl notReady
      amenable_balancedWorld assigned exposed_balancedWorld⟩

end Reconcile

end EdgePlane
