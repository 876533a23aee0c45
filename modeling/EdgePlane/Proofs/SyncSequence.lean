import EdgePlane.Proofs.Store
import EdgePlane.Proofs.SyncTrace

/-!
# Syncing objects one after the other

A sync writes its own place only, and what it makes of that place depends on what stood there, so what a
sequence of syncs leaves in a place is told by the descriptors of that place alone: by the last one that
replaces, or else by what stood there first.
-/

namespace EdgePlane

open Kubernetes Simulation

namespace Kubernetes.Object

/-- What the cluster reported of an object. -/
def report? : Object → Option (ServiceStatus ⊕ Json)
  | .service s => s.status.map .inl
  | .deployment d => d.status.map .inr
  | _ => none

@[simp] theorem report?_ownedBy (owner : OwnerReference) (o : Object) :
    (o.ownedBy owner).report? = o.report? := by
  cases o <;> rfl

/-- An object that reports nothing keeps what another of its kind reported. -/
theorem report?_keepingStatus {o old : Object} (unreported : o.report? = none) (kind : old.kind = o.kind) :
    (o.keepingStatus (some old)).report? = old.report? := by
  cases o with
  | service new =>
    cases old with
    | service old =>
      have silent : new.status = none := by simpa [report?] using unreported
      simp [keepingStatus, report?, silent]
    | _ => cases kind
  | deployment new =>
    cases old with
    | deployment old =>
      have silent : new.status = none := by simpa [report?] using unreported
      simp [keepingStatus, report?, silent]
    | _ => cases kind
  | _ => cases old <;> first | rfl | cases kind

/-- An object that reports nothing hands on what it kept. -/
theorem keepingStatus_of_unreported {o o' : Object} (unreported : o'.report? = none)
    (kind : o'.kind = o.kind) (old : Option Object) :
    o.keepingStatus (some (o'.keepingStatus old)) = o.keepingStatus old := by
  cases o with
  | service new =>
    cases o' with
    | service between =>
      have silent : between.status = none := by simpa [report?] using unreported
      rcases old with _ | old
      · simp [keepingStatus, silent]
      · cases old <;> simp [keepingStatus, silent]
    | _ => cases kind
  | deployment new =>
    cases o' with
    | deployment between =>
      have silent : between.status = none := by simpa [report?] using unreported
      rcases old with _ | old
      · simp [keepingStatus, silent]
      · cases old <;> simp [keepingStatus, silent]
    | _ => cases kind
  | _ => simp [keepingStatus]

end Kubernetes.Object

/-- An object that is to be brought about, by whom it is owned, and how it is treated where it exists. -/
structure Descriptor where
  owner : OwnerReference
  mode : SyncMode
  object : Object

namespace Descriptor

def address (d : Descriptor) : Address := d.object.address

def owned (d : Descriptor) : Object := d.object.ownedBy d.owner

def sync (d : Descriptor) : Attempt SyncResult := EdgePlane.sync d.owner d.mode d.object

/-- One sync after the other, up to the first that fails. -/
def syncAll : List Descriptor → Attempt (List SyncResult)
  | [] => return []
  | d :: ds => do
    let first ← d.sync
    let others ← syncAll ds
    return first :: others

/-- What a sync results in, by what stood in its place. -/
def result (d : Descriptor) (stood : Option Object) : SyncResult :=
  match stood, d.mode with
  | none, _ => .created
  | some _, .apply => .updated
  | some _, .createOnly => .kept

/-- Whether a descriptor replaces what stands at an address. -/
def Replaces (a : Address) (d : Descriptor) : Prop := d.address = a ∧ d.mode = .apply

instance (a : Address) : DecidablePred (Replaces a) :=
  fun d => inferInstanceAs (Decidable (d.address = a ∧ d.mode = .apply))

/-- The last of some descriptors that replaces what stands at an address. -/
def lastReplacing (a : Address) (ds : List Descriptor) : Option Descriptor :=
  (ds.filter (Replaces a ·)).getLast?

/-- The first of some descriptors of an address. -/
def firstAt (a : Address) (ds : List Descriptor) : Option Descriptor := ds.find? (·.address = a)

variable {d : Descriptor} {ds : List Descriptor} {a : Address} {s : Store} {w : World}

@[simp] theorem address_owned (d : Descriptor) : d.owned.address = d.address :=
  Object.address_ownedBy ..

@[simp] theorem report?_owned (d : Descriptor) : d.owned.report? = d.object.report? :=
  Object.report?_ownedBy ..

/-- What a descriptor kept of an object's status, a later one of the same place keeps as well. -/
theorem owned_keepingStatus_owned {d' : Descriptor} (unreported : d'.object.report? = none)
    (same : d'.address = d.address) (old : Option Object) :
    d.owned.keepingStatus (some (d'.owned.keepingStatus old)) = d.owned.keepingStatus old := by
  refine Object.keepingStatus_of_unreported ?_ ?_ old
  · rw [report?_owned, unreported]
  · have place : d'.owned.address = d.owned.address := by rw [address_owned, address_owned, same]
    exact congrArg Address.kind place

theorem lastReplacing_append_singleton :
    lastReplacing a (ds ++ [d]) = if d.Replaces a then some d else lastReplacing a ds := by
  by_cases replaces : d.Replaces a <;> simp [lastReplacing, List.filter_append, replaces]

theorem firstAt_append_singleton :
    firstAt a (ds ++ [d]) = (firstAt a ds).or (if d.address = a then some d else none) := by
  by_cases here : d.address = a <;> simp [firstAt, List.find?_append, here]

theorem replaces_of_lastReplacing (h : lastReplacing a ds = some d) : d ∈ ds ∧ d.Replaces a := by
  have member := List.mem_of_getLast? h
  simpa using member

theorem at_of_firstAt (h : firstAt a ds = some d) : d ∈ ds ∧ d.address = a :=
  ⟨List.mem_of_find?_eq_some h, by simpa using List.find?_some h⟩

end Descriptor

namespace Store

open Descriptor

/-- The store after one sync. -/
def synced (s : Store) (d : Descriptor) : Store := fun a =>
  if d.address = a ∧ (s a = none ∨ d.mode = .apply) then some (d.owned.keepingStatus (s a)) else s a

/-- The store after one sync after the other. -/
def syncedAll (s : Store) (ds : List Descriptor) : Store := ds.foldl synced s

variable {d : Descriptor} {ds : List Descriptor} {a : Address} {s : Store}

theorem syncedAll_append_singleton : s.syncedAll (ds ++ [d]) = (s.syncedAll ds).synced d :=
  List.foldl_append

theorem synced_of_ne (elsewhere : d.address ≠ a) : s.synced d a = s a :=
  if_neg fun h => elsewhere h.1

theorem synced_of_replaces (replaces : d.Replaces a) :
    s.synced d a = some (d.owned.keepingStatus (s a)) :=
  if_pos ⟨replaces.1, .inr replaces.2⟩

/-- A sync that does not replace only fills an empty place. -/
theorem synced_of_not_replaces (here : d.address = a) (stays : ¬ d.Replaces a) :
    s.synced d a = (s a).or (some d.owned) := by
  have mode : d.mode ≠ .apply := fun h => stays ⟨here, h⟩
  cases stood : s a with
  | none => simp [synced, here, stood]
  | some o => simp [synced, stood, mode]

/-- A sync that writes its object puts it in its place. -/
theorem synced_of_written (written : s d.address = none ∨ d.mode = .apply) :
    s.synced d a = if d.address = a then some (d.owned.keepingStatus (s a)) else s a := by
  by_cases here : d.address = a
  · subst here
    exact (if_pos ⟨rfl, written⟩).trans (if_pos rfl).symm
  · rw [synced_of_ne here, if_neg here]

/-- The trace of a sync that writes its object. -/
theorem after_sync {found : Option Object} {e : Event} (stores : e.stored? = some d.owned)
    (written : s d.address = none ∨ d.mode = .apply) :
    s.after [⟨.get d.address, .ok found⟩, e] a = s.synced d a := by
  rw [synced_of_written written, Store.after, Part.run_cons, Part.objectAt_ignores rfl, Part.run_cons,
    Part.run_nil, Part.objectAt_after stores, address_owned]

theorem synced_of_kept (there : (s d.address).isSome) (stays : d.mode ≠ .apply) : s.synced d = s := by
  funext a
  refine if_neg ?_
  rintro ⟨rfl, missing | replaced⟩
  · rw [missing] at there
    cases there
  · exact stays replaced

/-- What one sync after the other leaves at an address. -/
theorem syncedAll_eq (unreported : ∀ d ∈ ds, d.object.report? = none) :
    s.syncedAll ds a =
      match lastReplacing a ds with
      | some d => some (d.owned.keepingStatus (s a))
      | none => (s a).or ((firstAt a ds).map (·.owned)) := by
  induction ds using List.reverseRecOn with
  | nil => simp [syncedAll, lastReplacing, firstAt]
  | append_singleton ds d ih =>
    have before := ih fun d' member => unreported d' (by simp [member])
    rw [syncedAll_append_singleton, lastReplacing_append_singleton, firstAt_append_singleton]
    by_cases here : d.address = a
    · by_cases replaces : d.Replaces a
      · rw [synced_of_replaces replaces, if_pos replaces, before]
        -- whatever stands there by now has the status that was there to begin with
        have handsOn {d' : Descriptor} (member : d' ∈ ds) (there : d'.address = a) :=
          owned_keepingStatus_owned (unreported d' (by simp [member])) (there.trans here.symm)
        cases last : lastReplacing a ds with
        | some d' =>
          obtain ⟨member, there, -⟩ := replaces_of_lastReplacing last
          exact congrArg some (handsOn member there (s a))
        | none =>
          cases stood : s a with
          | some o => rfl
          | none =>
            cases first : firstAt a ds with
            | none => rfl
            | some d' =>
              obtain ⟨member, there⟩ := at_of_firstAt first
              have kept := handsOn member there none
              rw [Object.keepingStatus_none] at kept
              exact congrArg some kept
      · rw [synced_of_not_replaces here replaces, if_neg replaces, if_pos here, before]
        cases lastReplacing a ds with
        | some d' => rfl
        | none => cases s a <;> cases firstAt a ds <;> rfl
    · have stays : ¬ d.Replaces a := fun h => here h.1
      rw [synced_of_ne here, if_neg stays, if_neg here, before, Option.or_none]

/-- Nothing is ever deleted. -/
theorem isSome_synced (h : (s a).isSome) : (s.synced d a).isSome := by
  unfold synced
  split
  · rfl
  · exact h

theorem syncedAll_of_ne (elsewhere : ∀ d ∈ ds, d.address ≠ a) : s.syncedAll ds a = s a := by
  induction ds generalizing s with
  | nil => rfl
  | cons d ds ih =>
    have later : (s.synced d).syncedAll ds a = s.synced d a :=
      ih fun d' member => elsewhere d' (by simp [member])
    exact later.trans (synced_of_ne (elsewhere d (by simp)))

theorem isSome_syncedAll (h : (s a).isSome) : (s.syncedAll ds a).isSome := by
  induction ds generalizing s with
  | nil => exact h
  | cons d ds ih => exact ih (isSome_synced h)

/-- A sync that is repeated changes nothing. -/
theorem synced_synced (unreported : d.object.report? = none) : (s.synced d).synced d = s.synced d := by
  funext a
  by_cases here : d.address = a
  · by_cases replaces : d.Replaces a
    · rw [synced_of_replaces replaces, synced_of_replaces replaces,
        owned_keepingStatus_owned unreported rfl]
    · rw [synced_of_not_replaces here replaces, synced_of_not_replaces here replaces, Option.or_assoc,
        Option.or_self]
  · exact synced_of_ne here

end Store

namespace Descriptor

variable {d : Descriptor} {ds : List Descriptor} {w : World}

/-- A sync in a world without faults: what it results in, and what it leaves. -/
theorem run_sync (reliable : w.faults = []) (d : Descriptor) :
    (w.run d.sync.run).1 = .ok (d.result (w.cluster.object? d.address)) ∧
      (w.run d.sync.run).2.cluster.object? = Store.synced w.cluster.object? d := by
  have plays := w.plays_trace d.sync.run
  have seen (a : Address) := w.objectAt_trace d.sync.run a
  have admitted := w.reliableObjectAt_trace d.sync.run d.address reliable
  generalize w.trace d.sync.run = t at plays seen admitted
  cases outcome : (w.run d.sync.run).1 with
  | error e =>
    rw [outcome] at plays
    exact (not_fails_sync admitted plays).elim
  | ok r =>
    rw [outcome] at plays
    have stood : ∀ found rest, t = ⟨.get d.address, .ok found⟩ :: rest →
        found = w.cluster.object? d.address := by
      rintro found rest rfl
      exact (seen d.address).1.1 rfl
    rcases yields_sync plays with ⟨rfl, rfl⟩ | ⟨old, rfl, mode, rfl⟩ | ⟨old, rfl, mode, rfl⟩
    · have missing : none = w.cluster.object? d.address := stood none _ rfl
      refine ⟨by rw [← missing]; rfl, funext fun a => (seen a).2.trans ?_⟩
      exact Store.after_sync rfl (.inl missing.symm)
    · have found : some old = w.cluster.object? d.address := stood (some old) _ rfl
      refine ⟨by simp [← found, result, mode], funext fun a => (seen a).2.trans ?_⟩
      exact Store.after_sync rfl (.inr mode)
    · have found : some old = w.cluster.object? d.address := stood (some old) _ rfl
      refine ⟨by simp [← found, result, mode], funext fun a => ?_⟩
      rw [Store.synced_of_kept (by rw [← found]; rfl) (by simp [mode]), (seen a).2, Part.run_cons,
        Part.objectAt_ignores rfl, Part.run_nil]

/-- The objects that a world holds after some syncs. -/
def objectsAfter (w : World) (ds : List Descriptor) : Store := (w.run (syncAll ds).run).2.cluster.object?

/-- The syncs in a world without faults: what they result in, each by what the ones before it left, and what
they all leave. -/
theorem run_syncAll (reliable : w.faults = []) (ds : List Descriptor) :
    ∃ results, (w.run (syncAll ds).run).1 = .ok results ∧ results.length = ds.length ∧
      objectsAfter w ds = Store.syncedAll w.cluster.object? ds ∧
      ∀ before d after, ds = before ++ d :: after → results[before.length]? =
        some (d.result (Store.syncedAll w.cluster.object? before d.address)) := by
  induction ds generalizing w with
  | nil => exact ⟨[], rfl, rfl, rfl, fun before d after split => by simp at split⟩
  | cons d ds ih =>
    obtain ⟨result, left⟩ := run_sync reliable d
    obtain ⟨others, results, length, objects, each⟩ :=
      ih (w := (w.run d.sync.run).2) (w.faults_run _ reliable)
    have ran : w.run (syncAll (d :: ds)).run =
        (.ok (d.result (w.cluster.object? d.address) :: others),
          ((w.run d.sync.run).2.run (syncAll ds).run).2) := by
      rw [syncAll, ExceptT.run_bind, World.run_bind, result]
      dsimp only
      rw [ExceptT.run_bind, World.run_bind, results]
      rfl
    rw [left] at objects each
    refine ⟨_, congrArg Prod.fst ran, by simp [length], ?_, ?_⟩
    · rw [objectsAfter, ran]
      exact objects
    · intro before d' after split
      cases before with
      | nil =>
        obtain ⟨rfl, rfl⟩ := List.cons.inj split
        rfl
      | cons d₁ before =>
        obtain ⟨rfl, rfl⟩ := List.cons.inj split
        exact each before d' after rfl

/-- What some syncs do: what each of them results in, and what they leave at each address. -/
structure Brought (w : World) (ds : List Descriptor) : Prop where
  /-- No sync fails, and each result is told by what the ones before it left in its place. -/
  results : ∃ results, (w.run (syncAll ds).run).1 = .ok results ∧ results.length = ds.length ∧
    ∀ before d after, ds = before ++ d :: after → ∃ r, results[before.length]? = some r ∧
      (r = .created ↔ objectsAfter w before d.address = none) ∧
      (r = .updated ↔ (objectsAfter w before d.address).isSome ∧ d.mode = .apply) ∧
      (r = .kept ↔ (objectsAfter w before d.address).isSome ∧ d.mode = .createOnly)
  /-- The last descriptor that replaces an object has its own owner only, and what the cluster reported to
  begin with stays. -/
  replaced : ∀ a d, lastReplacing a ds = some d → ∃ o, objectsAfter w ds a = some o ∧
    o = d.owned.keepingStatus (w.cluster.object? a) ∧
    o.metadata = { d.object.metadata with ownerReferences := some [d.owner] } ∧
    (w.cluster.object? a = none → o.report? = none) ∧
    ∀ old, w.cluster.object? a = some old → old.kind = a.kind → o.report? = old.report?
  /-- Where nothing is replaced, the first descriptor fills an empty place. -/
  filled : ∀ a d, lastReplacing a ds = none → w.cluster.object? a = none → firstAt a ds = some d →
    objectsAfter w ds a = some d.owned
  untouched : ∀ a, lastReplacing a ds = none → (w.cluster.object? a).isSome →
    objectsAfter w ds a = w.cluster.object? a
  elsewhere : ∀ a, (∀ d ∈ ds, d.address ≠ a) → objectsAfter w ds a = w.cluster.object? a
  remains : ∀ a, (w.cluster.object? a).isSome → (objectsAfter w ds a).isSome
  settled : ∀ d, ds.getLast? = some d → objectsAfter w (ds ++ [d]) = objectsAfter w ds

theorem result_eq_created {stood : Option Object} : d.result stood = .created ↔ stood = none := by
  cases stood <;> cases mode : d.mode <;> simp [result, mode]

theorem result_eq_updated {stood : Option Object} :
    d.result stood = .updated ↔ stood.isSome ∧ d.mode = .apply := by
  cases stood <;> cases mode : d.mode <;> simp [result, mode]

theorem result_eq_kept {stood : Option Object} :
    d.result stood = .kept ↔ stood.isSome ∧ d.mode = .createOnly := by
  cases stood <;> cases mode : d.mode <;> simp [result, mode]

theorem objectsAfter_eq (reliable : w.faults = []) (ds : List Descriptor) :
    objectsAfter w ds = Store.syncedAll w.cluster.object? ds := by
  obtain ⟨-, -, -, objects, -⟩ := run_syncAll reliable ds
  exact objects

theorem metadata_owned (d : Descriptor) :
    d.owned.metadata = { d.object.metadata with ownerReferences := some [d.owner] } :=
  Object.metadata_mapMetadata ({ · with ownerReferences := some [d.owner] }) d.object

/-- Syncs of objects that report nothing, in a world without faults. -/
theorem syncAll_brings (w : World) (ds : List Descriptor) (reliable : w.faults = [])
    (unreported : ∀ d ∈ ds, d.object.report? = none) : Brought w ds where
  results := by
    obtain ⟨results, ran, length, -, each⟩ := run_syncAll reliable ds
    refine ⟨results, ran, length, fun before d after split => ⟨_, each before d after split, ?_⟩⟩
    rw [objectsAfter_eq reliable]
    exact ⟨result_eq_created, result_eq_updated, result_eq_kept⟩
  replaced := by
    intro a d last
    obtain ⟨member, here, -⟩ := replaces_of_lastReplacing last
    refine ⟨d.owned.keepingStatus (w.cluster.object? a), ?_, rfl, ?_, ?_, ?_⟩
    · rw [objectsAfter_eq reliable, Store.syncedAll_eq unreported, last]
    · rw [Object.metadata_keepingStatus, metadata_owned]
    · intro missing
      rw [missing, Object.keepingStatus_none, report?_owned, unreported d member]
    · intro old stood kind
      rw [stood]
      refine Object.report?_keepingStatus ?_ ?_
      · rw [report?_owned, unreported d member]
      · rw [kind, ← here, ← address_owned]
        rfl
  filled := by
    intro a d last missing first
    rw [objectsAfter_eq reliable, Store.syncedAll_eq unreported, last, missing, first]
    rfl
  untouched := by
    intro a last there
    rw [objectsAfter_eq reliable, Store.syncedAll_eq unreported, last]
    exact Option.or_of_isSome there
  elsewhere := by
    intro a elsewhere
    rw [objectsAfter_eq reliable]
    exact Store.syncedAll_of_ne elsewhere
  remains := by
    intro a there
    rw [objectsAfter_eq reliable]
    exact Store.isSome_syncedAll there
  settled := by
    intro d last
    obtain ⟨before, rfl⟩ := List.getLast?_eq_some_iff.1 last
    rw [objectsAfter_eq reliable, objectsAfter_eq reliable, Store.syncedAll_append_singleton,
      Store.syncedAll_append_singleton]
    exact Store.synced_synced (unreported d (by simp))

/-- Metadata that name an object of one namespace, with its owners. -/
def controllerNamed (owners : Option (List OwnerReference)) : Metadata :=
  { name := some "controller", namespaceName := some "edge", ownerReferences := owners }

/-- A service that has an address, and no secret yet. -/
def addressed : World where
  cluster := Cluster.insert {} (.service ⟨controllerNamed none, none, some (Service.statusAt "10.0.0.7")⟩)

/-- Two owners that bring about a service and a secret of one name. -/
def ofTwoOwners (first second : OwnerReference) : List Descriptor :=
  [⟨first, .apply, .service ⟨controllerNamed none, none, none⟩⟩,
    ⟨first, .createOnly, .secret { metadata := controllerNamed none }⟩,
    ⟨second, .createOnly, .secret { metadata := controllerNamed none }⟩,
    ⟨second, .apply, .service ⟨controllerNamed none, none, none⟩⟩]

/-- The service keeps its address and goes to the second owner; the secret stays with the first. -/
theorem syncAll_ofTwoOwners :
    let first : OwnerReference := ⟨"v1", "ControlPlane", "first", "1", some true, none⟩
    let second : OwnerReference := ⟨"v1", "ControlPlane", "second", "2", some true, none⟩
    let ds := ofTwoOwners first second
    (∀ d ∈ ds, d.object.report? = none) ∧ Brought addressed ds ∧
      objectsAfter addressed ds ⟨.service, "edge", "controller"⟩ =
        some (.service ⟨controllerNamed (some [second]), none, some (Service.statusAt "10.0.0.7")⟩) ∧
      objectsAfter addressed ds ⟨.secret, "edge", "controller"⟩ =
        some (.secret { metadata := controllerNamed (some [first]) }) := by
  intro first second ds
  have unreported : ∀ d ∈ ds, d.object.report? = none := by
    intro d member
    simp only [ds, ofTwoOwners, List.mem_cons, List.not_mem_nil, or_false] at member
    rcases member with rfl | rfl | rfl | rfl <;> rfl
  have brought := syncAll_brings addressed ds rfl unreported
  obtain ⟨o, service, rfl, -⟩ := brought.replaced ⟨.service, "edge", "controller"⟩
    ⟨second, .apply, .service ⟨controllerNamed none, none, none⟩⟩ rfl
  have secret := brought.filled ⟨.secret, "edge", "controller"⟩
    ⟨first, .createOnly, .secret { metadata := controllerNamed none }⟩ rfl rfl rfl
  exact ⟨unreported, brought, service, secret⟩

end Descriptor

end EdgePlane
