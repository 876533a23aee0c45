import EdgePlane.Proofs.Pass
import EdgePlane.Proofs.WorldTrace

/-!
# Runs of a world

A run is a sequence of happenings: passes over control planes, and what users, load balancers and
outages do between them.
-/

namespace EdgePlane.Simulation

open Kubernetes

/-- What happens to a world. -/
inductive Happening
  /-- A pass over the control plane of a name. -/
  | pass (ns name : String)
  /-- A control plane is declared, anew or in place of what was declared before. -/
  | declare (cp : ControlPlane)
  /-- The load balancer of a service is given an address. -/
  | assign (ns name ip : String)
  /-- The interface at a URL comes into some state, as it does when it fails or is repaired. -/
  | serve (url : String) (api : ApiServer)
  /-- Faults come up. -/
  | plant (faults : List Fault)

namespace World

/-- The world after a happening. -/
def happen (settings : Setup) (w : World) : Happening → World
  | .pass ns name => (w.run (Reconcile.dispatch settings ns name)).2
  | .declare cp => { w with cluster := w.cluster.insertControlPlane cp }
  | .assign ns name ip => { w with cluster := w.cluster.assignAddress ns name ip }
  | .serve url api => w.setApi url api
  | .plant faults => { w with faults }

/-- The world after a run. -/
def after (settings : Setup) (w : World) (history : List Happening) : World :=
  history.foldl (happen settings) w

/-- The trace of a pass. -/
def passTrace (settings : Setup) (w : World) (ns name : String) : List Event :=
  w.trace (Reconcile.dispatch settings ns name)

/-- Whether a pass makes the phase of being ready that of the control plane. -/
def readies (settings : Setup) (w : World) (ns name : String) : Bool :=
  (w.passTrace settings ns name).any (·.entersReady)

/-- What each happening keeps, a run keeps. -/
theorem after_keeps {settings : Setup} {I : World → Prop} {history : List Happening}
    (step : ∀ h ∈ history, ∀ w, I w → I (w.happen settings h)) {w : World} (hw : I w) :
    I (w.after settings history) := by
  induction history generalizing w with
  | nil => exact hw
  | cons h rest ih => exact ih (fun h' hh => step h' (by simp [hh])) (step h (by simp) w hw)

/-- A load balancer's address changes no object but a service. -/
theorem object?_assignAddress (c : Cluster) (ns name ip : String) {a : Address}
    (h : a.kind ≠ .service) : (c.assignAddress ns name ip).object? a = c.object? a := by
  unfold Cluster.assignAddress
  dsimp only
  split
  · simp only [Cluster.object?]
    refine Dict.get?_insert_ne ?_ _ _
    rintro rfl
    exact h rfl
  · rfl

variable {settings : Setup} {w : World} {ns name : String}

/-- The control plane of a pass is the one that is found under the name. -/
theorem found_of_pass (p : Reconcile.Pass settings ns name (w.passTrace settings ns name)) :
    w.cluster.controlPlane? ns name = some p.cp := by
  have head : (w.passTrace settings ns name).head? =
      some ⟨.fetch ns name, (answer (.fetch ns name) w).1⟩ := rfl
  have reply : (answer (.fetch ns name) w).1 = .ok (some p.cp) := by
    rw [congrArg List.head? p.eq, List.head?_cons, Option.some.injEq, Event.mk.injEq] at head
    exact (eq_of_heq head.2).symm
  obtain ⟨-, -, ⟨-, ⟨failure, error⟩, -⟩ | ⟨asked, -⟩⟩ :=
    askCluster_cases w (.fetch ns name) fun c => (c.fetch ns name, c)
  · simp [answer, error] at reply
  · have reply := asked.symm.trans reply
    simp only [Cluster.fetch] at reply
    split at reply
    · cases reply
    · exact Except.ok.inj reply

/-- An object after a pass is what the parts of the pass made of it. -/
theorem objectAt_pass (pass : Reconcile.Pass settings ns name (w.passTrace settings ns name))
    (a : Address) :
    (w.happen settings (.pass ns name)).cluster.object? a =
        (Part.objectAt a).run (w.cluster.object? a) pass.middle ∧
      (Part.objectAt a).Admits (w.cluster.object? a) pass.middle := by
  obtain ⟨hrun, hadmits⟩ := pass.seen (Reconcile.objectAt_ignores_bookkeeping a)
    (w.cluster.object? a)
  obtain ⟨admitted, final⟩ := w.objectAt_trace (Reconcile.dispatch settings ns name) a
  exact ⟨final.trans hrun, hadmits admitted⟩

/-- The accounts of an interface after a pass are what the controller's part made of them. -/
theorem accountsAt_pass (pass : Reconcile.Pass settings ns name (w.passTrace settings ns name))
    (url : String) :
    (w.happen settings (.pass ns name)).accounts url =
        (Part.accountsAt url).run (w.accounts url) pass.parts.controller ∧
      (Part.accountsAt url).Admits (w.accounts url) pass.parts.controller := by
  obtain ⟨hrun, hadmits⟩ := pass.seen (P := Part.accountsAt url) (fun e h =>
    Part.accountsAt_ignores (Reconcile.not_account_of_bookkeeping h url)) (w.accounts url)
  obtain ⟨hrun', hadmits'⟩ := pass.parts.seen_by_interface (P := Part.accountsAt url)
    (fun _ h => Part.accountsAt_ignores h) (w.accounts url)
  obtain ⟨admitted, final⟩ := w.accountsAt_trace (Reconcile.dispatch settings ns name) url
  exact ⟨final.trans (hrun.trans hrun'), hadmits' (hadmits admitted)⟩

/-- In a world without faults the calls of a pass fail only for a reason. -/
theorem reliable_pass (pass : Reconcile.Pass settings ns name (w.passTrace settings ns name))
    (none : w.faults = []) :
    (∀ a, (Part.reliableObjectAt a).Admits (w.cluster.object? a) pass.middle) ∧
      ∀ url, (Part.reliableAccountsAt url).Admits (w.accounts url) pass.parts.controller := by
  constructor
  · intro a
    exact (pass.seen (P := .reliableObjectAt a) (fun e h =>
      Reconcile.objectAt_ignores_bookkeeping a e h) _).2 (w.reliableObjectAt_trace _ a none)
  · intro url
    have hadmits := (pass.seen (P := .reliableAccountsAt url) (fun e h => Part.accountsAt_ignores
      (Reconcile.not_account_of_bookkeeping h url)) (w.accounts url)).2
    exact (pass.parts.seen_by_interface (P := .reliableAccountsAt url)
      (fun e h => Part.accountsAt_ignores h) _).2 (hadmits (w.reliableAccountsAt_trace _ url none))

/-- The router of an interface after a pass is what the controller's part made of it. -/
theorem routerAt_pass (pass : Reconcile.Pass settings ns name (w.passTrace settings ns name))
    (url : String) :
    ((w.happen settings (.pass ns name)).api url).router =
      (Part.routerAt url).run (w.api url).router pass.parts.controller := by
  have hrun := (pass.seen (P := Part.routerAt url) (fun e h =>
    Part.routerAt_ignores (Reconcile.not_account_of_bookkeeping h url)) (w.api url).router).1
  have hrun' := (pass.parts.seen_by_interface (P := Part.routerAt url)
    (fun _ h => Part.routerAt_ignores h) (w.api url).router).1
  exact (w.routerAt_trace (Reconcile.dispatch settings ns name) url).trans (hrun.trans hrun')

end World

/-- A control plane without load balancers, for runs that are written out. -/
def plainControlPlane (email : String) (password : Credential)
    (database : ControlPlane.Database) : ControlPlane where
  metadata := { name := some "ecn", namespaceName := some "ns", uid := some "u" }
  spec :=
    { user := ⟨"Foo", "Bar", email, password⟩
      database
      services := ⟨{ type := "ClusterIP" }, { type := "ClusterIP" }⟩
      ingresses := { router := { address := "10.0.0.1" } } }
  status := none

end EdgePlane.Simulation
