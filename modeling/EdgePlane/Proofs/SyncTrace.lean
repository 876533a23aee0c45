import EdgePlane.Proofs.StoredObject
import EdgePlane.Reconcile.Target

/-!
# What syncing does

Syncing looks the object up and writes it at most once, owned by the target. An object that is replaced
whenever it exists has been written exactly once when the sync succeeds.
-/

namespace EdgePlane

open Kubernetes

variable {owner : OwnerReference} {mode : SyncMode} {o : Object} {t : List Event}

/-- The objects that a trace stored, in their order. -/
def stored (t : List Event) : List Object := t.filterMap (·.stored?)

@[simp] theorem stored_append (t u : List Event) : stored (t ++ u) = stored t ++ stored u :=
  List.filterMap_append

theorem storedAt_eq (a : Address) (t : List Event) :
    t.filterMap (·.storedAt? a) = (stored t).filter (·.address = a) := by
  induction t with
  | nil => rfl
  | cons e t ih =>
    cases h : e.stored? with
    | none => simpa [stored, Event.storedAt?, h] using ih
    | some o =>
      by_cases here : o.address = a
      · simpa [stored, Event.storedAt?, h, here, Option.filter_some] using ih
      · simpa [stored, Event.storedAt?, h, here, Option.filter_some] using ih

theorem yields_sync {r : SyncResult} (h : (sync owner mode o).Yields t r) :
    (t = [⟨.get o.address, .ok none⟩, ⟨.create (o.ownedBy owner), .ok ()⟩] ∧ r = .created) ∨
      (∃ old, t = [⟨.get o.address, .ok (some old)⟩, ⟨.apply (o.ownedBy owner), .ok ()⟩] ∧
        mode = .apply ∧ r = .updated) ∨
      ∃ old, t = [⟨.get o.address, .ok (some old)⟩] ∧ mode = .createOnly ∧ r = .kept := by
  obtain ⟨t₁, found, t₂, rfl, look, write⟩ := Attempt.yields_bind.1 h
  rw [Object.address_ownedBy, Attempt.yields_get] at look
  subst look
  cases found with
  | none =>
    obtain ⟨u, created, rfl⟩ := Attempt.yields_bind_pure.1 write
    rw [Attempt.yields_create] at created
    exact .inl ⟨by rw [created]; rfl, rfl⟩
  | some old =>
    cases mode with
    | apply =>
      obtain ⟨u, applied, rfl⟩ := Attempt.yields_bind_pure.1 write
      rw [Attempt.yields_apply] at applied
      exact .inr (.inl ⟨old, by rw [applied]; rfl, rfl, rfl⟩)
    | createOnly =>
      obtain ⟨rfl, rfl⟩ := Attempt.yields_pure.1 write
      exact .inr (.inr ⟨old, rfl, rfl, rfl⟩)

theorem fails_sync {e : Failure} (h : (sync owner mode o).Fails t e) :
    t = [⟨.get o.address, .error e⟩] ∨
      t = [⟨.get o.address, .ok none⟩, ⟨.create (o.ownedBy owner), .error e⟩] ∨
      ∃ old, t = [⟨.get o.address, .ok (some old)⟩, ⟨.apply (o.ownedBy owner), .error e⟩] ∧
        mode = .apply := by
  rcases Attempt.fails_bind.1 h with look | ⟨t₁, found, t₂, rfl, look, write⟩
  · rw [Object.address_ownedBy, Attempt.fails_get] at look
    exact .inl look
  rw [Object.address_ownedBy, Attempt.yields_get] at look
  subst look
  cases found with
  | none =>
    rw [Attempt.fails_bind_pure, Attempt.fails_create] at write
    exact .inr (.inl (by rw [write]; rfl))
  | some old =>
    cases mode with
    | apply =>
      rw [Attempt.fails_bind_pure, Attempt.fails_apply] at write
      exact .inr (.inr ⟨old, by rw [write]; rfl, rfl⟩)
    | createOnly => exact (Attempt.fails_pure.1 write).elim

/-- Where calls fail only for a reason, no sync fails. -/
theorem not_fails_sync {old : Option Object} {e : Failure}
    (admitted : (Part.reliableObjectAt o.address).Admits old t) : ¬ (sync owner mode o).Fails t e := by
  intro failed
  have address : (o.ownedBy owner).address = o.address := Object.address_ownedBy ..
  obtain rfl | rfl | ⟨found, rfl, -⟩ := fails_sync failed
  · exact admitted.1.2 rfl
  · obtain ⟨look, create, -⟩ := admitted
    obtain rfl : none = old := look.1 rfl
    exact absurd (create.2 address) (by simp [Part.reliableObjectAt, Part.objectAt, Event.storedAt?,
      Event.stored?])
  · exact admitted.2.1.2 address

/-- Whether calls about objects of some names fail only for a reason. -/
def ReliableFor (names : List String) (t : List Event) : Prop :=
  ∀ a : Address, a.name ∈ names → ∃ old, (Part.reliableObjectAt a).Admits old t

theorem ReliableFor.append {names : List String} {u : List Event}
    (h : ReliableFor names (t ++ u)) : ReliableFor names t ∧ ReliableFor names u := by
  constructor <;> intro a ha <;> obtain ⟨old, admitted⟩ := h a ha
  · exact ⟨old, ((Part.admits_append _ _ t u).1 admitted).1⟩
  · exact ⟨_, ((Part.admits_append _ _ t u).1 admitted).2⟩

theorem ReliableFor.not_fails_sync {names : List String} {e : Failure} (h : ReliableFor names t)
    (name : o.address.name ∈ names) : ¬ (sync owner mode o).Fails t e := by
  obtain ⟨old, admitted⟩ := h _ name
  exact EdgePlane.not_fails_sync admitted

/-- A sync that replaces has written its object once it succeeds. -/
theorem stored_sync {r : SyncResult} (h : (sync owner .apply o).Yields t r) :
    stored t = [o.ownedBy owner] := by
  obtain ⟨rfl, -⟩ | ⟨old, rfl, -⟩ | ⟨old, -, ⟨⟩, -⟩ := yields_sync h
  · rfl
  · rfl

namespace Component

variable (c : Component) (ns : String)

/-- The account of a component, and its role and binding if it may do anything. -/
def identity : List Object :=
  [.serviceAccount (c.serviceAccount ns)] ++
    if c.rules.isEmpty then [] else [.role (c.role ns), .roleBinding (c.roleBinding ns)]

/-- The service of a component if it has one. -/
def services : List Object := ((c.serviceObject ns).map .service).toList

/-- All objects that a component is brought about with. -/
def objects : List Object := c.identity ns ++ c.services ns ++ [.deployment (c.deployment ns)]

end Component

namespace Target

variable {target : Target} {component : Component}

/-- Objects as the target owns them. -/
def owned (target : Target) (os : List Object) : List Object := os.map (·.ownedBy target.owner)

@[simp] theorem owned_append (os os' : List Object) :
    target.owned (os ++ os') = target.owned os ++ target.owned os' := List.map_append

@[simp] theorem owned_cons (o : Object) (os : List Object) :
    target.owned (o :: os) = o.ownedBy target.owner :: target.owned os := rfl

@[simp] theorem owned_nil : target.owned [] = [] := rfl

theorem stored_syncIdentity {u : Unit} (h : (target.syncIdentity component).Yields t u) :
    stored t = target.owned (component.identity target.namespaceName) := by
  obtain ⟨t₁, r₁, t₂, rfl, account, rest⟩ := Attempt.yields_bind.1 h
  rw [stored_append, stored_sync account]
  cases hrules : component.rules.isEmpty with
  | true =>
    simp only [hrules, Bool.not_true, Bool.false_eq_true, if_false] at rest
    obtain ⟨rfl, -⟩ := Attempt.yields_pure.1 rest
    simp [Component.identity, hrules, stored]
  | false =>
    simp only [hrules, Bool.not_false, if_true] at rest
    obtain ⟨t₃, r₂, t₄, rfl, role, rest⟩ := Attempt.yields_bind.1 rest
    obtain ⟨r₃, binding, -⟩ := Attempt.yields_bind_pure.1 rest
    rw [stored_append, stored_sync role, stored_sync binding]
    simp [Component.identity, hrules]

theorem stored_syncService {u : Unit} (h : (target.syncService component).Yields t u) :
    stored t = target.owned (component.services target.namespaceName) := by
  unfold syncService at h
  cases hservice : component.serviceObject target.namespaceName with
  | none =>
    simp only [hservice] at h
    obtain ⟨rfl, -⟩ := Attempt.yields_pure.1 h
    simp [Component.services, hservice, stored]
  | some service =>
    simp only [hservice] at h
    obtain ⟨r, synced, -⟩ := Attempt.yields_bind_pure.1 h
    rw [stored_sync synced]
    simp [Component.services, hservice]

theorem not_fails_syncIdentity {names : List String} {e : Failure} (h : ReliableFor names t)
    (name : component.name ∈ names) : ¬ (target.syncIdentity component).Fails t e := by
  intro failed
  rcases Attempt.fails_bind.1 failed with account | ⟨t₁, r, t₂, rfl, -, rest⟩
  · exact h.not_fails_sync
      (show (Object.serviceAccount (component.serviceAccount _)).address.name ∈ names from name) account
  replace h := h.append.2
  split at rest
  · rcases Attempt.fails_bind.1 rest with role | ⟨t₃, r, t₄, rfl, -, rest⟩
    · exact h.not_fails_sync (show (Object.role (component.role _)).address.name ∈ names from name) role
    · exact h.append.2.not_fails_sync
        (show (Object.roleBinding (component.roleBinding _)).address.name ∈ names from name)
        (Attempt.fails_bind_pure.1 rest)
  · exact Attempt.fails_pure.1 rest

end Target

end EdgePlane
