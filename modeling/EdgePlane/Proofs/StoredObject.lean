import EdgePlane.Proofs.Part

/-!
# The object at an address

Only a successful write to an address changes what stands there. Lookups that succeed find what stands
there, and an object is created only where there is none. Any call may fail.
-/

namespace EdgePlane

open Kubernetes

/-- The object that an event stored. -/
def Event.stored? : Event → Option Object
  | ⟨.create o, .ok _⟩ => some o
  | ⟨.apply o, .ok _⟩ => some o
  | _ => none

/-- The object that an event stored at an address. -/
def Event.storedAt? (a : Address) (e : Event) : Option Object := e.stored?.filter (·.address = a)

theorem Event.storedAt?_eq_some {a : Address} {e : Event} {o : Object} :
    e.storedAt? a = some o ↔ e.stored? = some o ∧ o.address = a := by
  rw [Event.storedAt?, Option.filter_eq_some_iff, decide_eq_true_iff]

namespace Kubernetes.Object

@[simp] theorem kind_keepingStatus (existing : Option Object) (o : Object) :
    (o.keepingStatus existing).kind = o.kind := by
  unfold keepingStatus
  split <;> rfl

@[simp] theorem metadata_keepingStatus (existing : Option Object) (o : Object) :
    (o.keepingStatus existing).metadata = o.metadata := by
  unfold keepingStatus
  split <;> rfl

@[simp] theorem address_keepingStatus (existing : Option Object) (o : Object) :
    (o.keepingStatus existing).address = o.address := by
  simp [address, name, namespaceName]

@[simp] theorem keepingStatus_none (o : Object) : o.keepingStatus none = o := by
  simp [keepingStatus]

@[simp] theorem keepingStatus_secret (existing : Option Object) (s : Secret) :
    (Object.secret s).keepingStatus existing = .secret s := by
  unfold keepingStatus
  split <;> first | rfl | contradiction

end Kubernetes.Object

namespace Part

/-- The object at an address. What the cluster reported of it stays when it is replaced. -/
def objectAt (a : Address) : Part (Option Object) where
  after old e :=
    match e.storedAt? a with
    | some o => some (o.keepingStatus old)
    | none => old
  Fits old
    | ⟨.get b, .ok found⟩ => b = a → found = old
    | ⟨.create o, .ok _⟩ => o.address = a → old = none
    | _ => True

/-- The object at an address in a cluster whose calls fail only for a reason: an object is created that
exists already. -/
def reliableObjectAt (a : Address) : Part (Option Object) where
  after := (objectAt a).after
  Fits old e := (objectAt a).Fits old e ∧
    match e with
    | ⟨.get b, .error _⟩ => b ≠ a
    | ⟨.create o, .error _⟩ => o.address = a → old.isSome
    | ⟨.apply o, .error _⟩ => o.address ≠ a
    | _ => True

variable {a : Address} {e : Event} {t : List Event} {old : Option Object} {o : Object}

theorem objectAt_after (h : e.stored? = some o) :
    (objectAt a).after old e = if o.address = a then some (o.keepingStatus old) else old := by
  by_cases here : o.address = a <;> simp [objectAt, Event.storedAt?, h, here, Option.filter_some]

theorem objectAt_after_of_stored (h : e.storedAt? a = some o) :
    (objectAt a).after old e = some (o.keepingStatus old) := by
  simp [objectAt, h]

theorem objectAt_ignores (h : e.storedAt? a = none) : (objectAt a).Ignores e := by
  intro old
  simp [objectAt, h]

theorem objectAt_after_cases (a : Address) (old : Option Object) (e : Event) :
    ((objectAt a).after old e = old ∧ e.storedAt? a = none) ∨
      ∃ o, e.stored? = some o ∧ o.address = a ∧
        (objectAt a).after old e = some (o.keepingStatus old) := by
  cases h : e.storedAt? a with
  | none => exact .inl ⟨objectAt_ignores h old, rfl⟩
  | some o =>
    obtain ⟨stored, here⟩ := Event.storedAt?_eq_some.1 h
    exact .inr ⟨o, stored, here, objectAt_after_of_stored h⟩

/-- What a trace leaves at an address is told by what it stored there. -/
theorem objectAt_run (a : Address) (old : Option Object) (t : List Event) :
    (objectAt a).run old t =
      (t.filterMap (·.storedAt? a)).foldl (fun old o => some (o.keepingStatus old)) old := by
  induction t generalizing old with
  | nil => rfl
  | cons e t ih =>
    rw [run_cons, ih]
    cases h : e.storedAt? a with
    | none => simp [objectAt, h]
    | some o => simp [objectAt, h]

/-- Nothing is ever deleted. -/
theorem objectAt_run_isSome (h : old.isSome) (t : List Event) : ((objectAt a).run old t).isSome := by
  induction t generalizing old with
  | nil => exact h
  | cons e t ih =>
    apply ih
    rcases objectAt_after_cases a old e with ⟨same, -⟩ | ⟨o, -, -, now⟩
    · rwa [same]
    · simp [now]

/-- What is stored where nothing else is stored is there in the end. -/
theorem objectAt_run_singleton (h : t.filterMap (·.storedAt? a) = [o]) :
    (objectAt a).run old t = some (o.keepingStatus old) := by
  rw [objectAt_run, h]
  rfl

theorem objectAt_run_of_nil (h : t.filterMap (·.storedAt? a) = []) : (objectAt a).run old t = old := by
  rw [objectAt_run, h]
  rfl

/-- What is stored without replacing anything is stored where there was nothing. -/
theorem eq_none_of_stored (fits : (objectAt a).Fits old e) (stores : e.storedAt? a = some o)
    (notApplied : ∀ o, e.call = .apply o → o.address ≠ a) : old = none := by
  obtain ⟨stored, here⟩ := Event.storedAt?_eq_some.1 stores
  obtain ⟨c, r⟩ := e
  cases c <;> cases r <;> simp [Event.stored?] at stored
  · subst stored
    exact fits here
  · subst stored
    exact (notApplied _ rfl here).elim

/-- Where there is an object, nothing is stored but by replacing it. -/
theorem unstored_of_admits {old : Object} (admitted : (objectAt a).Admits (some old) t)
    (he : e ∈ t) (notApplied : ∀ o, e.call = .apply o → o.address ≠ a) : e.storedAt? a = none := by
  refine Option.eq_none_iff_forall_ne_some.2 fun o stores => ?_
  obtain ⟨s, isSome, fits⟩ := admitted.fits (I := fun s => s.isSome)
    (fun e _ s isSome _ => objectAt_run_isSome isSome [e]) rfl e he
  rw [eq_none_of_stored fits stores notApplied] at isSome
  cases isSome

section Kept

variable (kept : ∀ e ∈ t, ∀ o, e.call = .apply o → o.address ≠ a)
include kept

/-- Where nothing is replaced, an object stays as it is. -/
theorem objectAt_run_of_kept (admitted : (objectAt a).Admits (some o) t) :
    (objectAt a).run (some o) t = some o :=
  run_of_ignores (fun e he => objectAt_ignores (unstored_of_admits admitted he (kept e he))) _

/-- What is found where nothing is replaced is there in the end. -/
theorem objectAt_run_of_found (admitted : (objectAt a).Admits old t)
    (found : ⟨.get a, .ok (some o)⟩ ∈ t) : (objectAt a).run old t = some o := by
  obtain ⟨t₁, t₂, rfl⟩ := List.append_of_mem found
  obtain ⟨-, fits, later⟩ := (admits_append _ _ _ _).1 admitted
  have now : some o = (objectAt a).run old t₁ := fits rfl
  rw [objectAt_ignores rfl, ← now] at later
  rw [run_append, run_cons, objectAt_ignores rfl, ← now]
  exact objectAt_run_of_kept (fun e he => kept e (by simp [he])) later

/-- What is stored where nothing is replaced is there in the end. -/
theorem objectAt_run_of_stored (admitted : (objectAt a).Admits old t) (he : e ∈ t)
    (stores : e.storedAt? a = some o) : (objectAt a).run old t = some o := by
  obtain ⟨t₁, t₂, rfl⟩ := List.append_of_mem he
  obtain ⟨-, fits, later⟩ := (admits_append _ _ _ _).1 admitted
  have missing := eq_none_of_stored fits stores (kept e he)
  rw [objectAt_after_of_stored stores, missing, Object.keepingStatus_none] at later
  rw [run_append, run_cons, objectAt_after_of_stored stores, missing, Object.keepingStatus_none]
  exact objectAt_run_of_kept (fun e he => kept e (by simp [he])) later

/-- An object that is there in the end but was not to begin with was stored. -/
theorem exists_stored (admitted : (objectAt a).Admits none t)
    (now : (objectAt a).run none t = some o) : ∃ e ∈ t, e.storedAt? a = some o := by
  by_cases stores : ∃ e ∈ t, ∃ o, e.storedAt? a = some o
  · obtain ⟨e, he, o', stores⟩ := stores
    rw [objectAt_run_of_stored kept admitted he stores] at now
    exact ⟨e, he, now ▸ stores⟩
  · have ignored : ∀ e ∈ t, (objectAt a).Ignores e := fun e he =>
      objectAt_ignores (Option.eq_none_iff_forall_ne_some.2 fun o h => stores ⟨e, he, o, h⟩)
    rw [run_of_ignores ignored] at now
    cases now

end Kept

/-- Where an object was missing at any time, there was none to begin with. -/
theorem eq_none_of_missing (admitted : (objectAt a).Admits old t) (missing : ⟨.get a, .ok none⟩ ∈ t) :
    old = none := by
  cases old with
  | none => rfl
  | some o =>
    obtain ⟨s, isSome, fits⟩ := admitted.fits (I := fun s => s.isSome)
      (fun e _ s isSome _ => objectAt_run_isSome isSome [e]) rfl _ missing
    obtain rfl : none = s := fits rfl
    cases isSome

theorem reliableObjectAt_run (a : Address) (old : Option Object) (t : List Event) :
    (reliableObjectAt a).run old t = (objectAt a).run old t := rfl

theorem Admits.ofReliable (h : (reliableObjectAt a).Admits old t) : (objectAt a).Admits old t := by
  induction t generalizing old with
  | nil => trivial
  | cons e t ih => exact ⟨h.1.1, ih h.2⟩

end Part

end EdgePlane
