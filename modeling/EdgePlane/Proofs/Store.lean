import EdgePlane.Proofs.Reach
import EdgePlane.Proofs.WorldTrace
import Mathlib.Data.List.Induction

/-!
# The store of a cluster

All objects of a cluster together, by their places. Nothing is ever deleted, so what was seen once, by
storing it or by finding it, is there from then on; and what stands in a place was there to begin with or
was stored there.
-/

namespace EdgePlane

open Kubernetes

/-- The objects of a cluster by their places. -/
abbrev Store := Address → Option Object

/-- Whether an event shows that there is an object at an address: it stored one or found one. -/
def Event.Shows (a : Address) (e : Event) : Prop :=
  (∃ o, e.storedAt? a = some o) ∨ ∃ o, e = ⟨.get a, .ok (some o)⟩

namespace Store

/-- The store after a trace. -/
def after (s : Store) (t : List Event) : Store := fun a => (Part.objectAt a).run (s a) t

/-- Whether a store can answer the calls of a trace as they were answered. Services are left out, since
load balancers report on them between the calls. -/
def Admits (s : Store) (t : List Event) : Prop :=
  ∀ a, a.kind ≠ .service → (Part.objectAt a).Admits (s a) t

variable {s : Store} {t u : List Event} {a : Address} {e : Event} {o : Object}

@[simp] theorem after_nil : s.after [] = s := rfl

@[simp] theorem after_append : s.after (t ++ u) = (s.after t).after u :=
  funext fun _ => Part.run_append ..

@[simp] theorem after_cons : s.after (e :: t) = (s.after [e]).after t := rfl

theorem after_singleton : s.after [e] a = (Part.objectAt a).after (s a) e := rfl

theorem admits_append : s.Admits (t ++ u) ↔ s.Admits t ∧ (s.after t).Admits u := by
  simp only [Admits, Part.admits_append, forall_and]
  rfl

/-- The first event of a trace fits what stands there, and the others fit what it made of that. -/
theorem admits_cons : s.Admits (e :: t) ↔
    (∀ a, a.kind ≠ .service → (Part.objectAt a).Fits (s a) e) ∧ (s.after [e]).Admits t := by
  simp only [Admits, Part.admits_cons, forall_and]
  rfl

/-- Nothing is ever deleted. -/
theorem isSome_after (h : (s a).isSome) (t : List Event) : (s.after t a).isSome :=
  Part.objectAt_run_isSome h t

/-- What was shown is there in the end. -/
theorem isSome_of_shown (admitted : s.Admits t) (kind : a.kind ≠ .service) (he : e ∈ t)
    (shows : e.Shows a) : (s.after t a).isSome := by
  obtain ⟨t₁, t₂, rfl⟩ := List.append_of_mem he
  rw [after_append, after_cons]
  refine isSome_after ?_ t₂
  rw [after_singleton]
  rcases shows with ⟨o, stores⟩ | ⟨o, rfl⟩
  · rw [Part.objectAt_after_of_stored stores]
    rfl
  · have found : some o = s.after t₁ a := (admits_cons.1 (admits_append.1 admitted).2).1 a kind rfl
    rw [← found]
    rfl

/-- What stands in a place stood there to begin with, or it is what some event stored there. -/
theorem after_cases (h : s.after t a = some o) : s a = some o ∨
    ∃ t₁ e t₂ o' before, t = t₁ ++ e :: t₂ ∧ e.storedAt? a = some o' ∧ o = o'.keepingStatus before := by
  induction t using List.reverseRec with
  | nil => exact .inl h
  | append_singleton t e ih =>
    rw [after_append, after_singleton] at h
    cases stores : e.storedAt? a with
    | some o' =>
      rw [Part.objectAt_after_of_stored stores, Option.some.injEq] at h
      exact .inr ⟨t, e, [], o', s.after t a, rfl, stores, h.symm⟩
    | none =>
      rw [Part.objectAt_ignores stores] at h
      rcases ih h with initial | ⟨t₁, e', t₂, o', before, rfl, stored, now⟩
      · exact .inl initial
      · exact .inr ⟨t₁, e', t₂ ++ [e], o', before, by simp, stored, now⟩

/-- Where there is an object, an event leaves it or replaces it. -/
theorem after_applied (admitted : s.Admits (e :: t)) (kind : a.kind ≠ .service)
    (there : (s a).isSome) : s.after [e] a = s a ∨
      ∃ o, e.call = .apply o ∧ e.storedAt? a = some o ∧ s.after [e] a = some (o.keepingStatus (s a)) := by
  have fits := (admits_cons.1 admitted).1 a kind
  rw [after_singleton]
  cases stores : e.storedAt? a with
  | none => exact .inl (Part.objectAt_ignores stores _)
  | some o =>
    by_cases applies : ∃ o', e.call = .apply o' ∧ o'.address = a
    · obtain ⟨o', call, -⟩ := applies
      obtain rfl : o = o' := by
        have stored := Event.stores?_of_stored (Event.storedAt?_eq_some.1 stores).1
        rw [call] at stored
        exact (Option.some.inj stored).symm
      exact .inr ⟨o, call, rfl, Part.objectAt_after_of_stored stores⟩
    · have missing := Part.eq_none_of_stored fits stores fun o' call here => applies ⟨o', call, here⟩
      rw [missing] at there
      cases there

end Store

namespace Simulation.World

/-- The objects of a world are seen in a trace that is followed, and are as the trace leaves them. -/
theorem Follows.store {w w' : World} {t : List Event} (h : w.Follows t w') :
    Store.Admits w.cluster.object? t ∧ w'.cluster.object? = Store.after w.cluster.object? t :=
  ⟨fun a _ => (h.objectAt a).1, funext fun a => (h.objectAt a).2⟩

end Simulation.World

end EdgePlane
