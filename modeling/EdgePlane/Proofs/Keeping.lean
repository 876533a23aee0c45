import EdgePlane.Proofs.Base64
import EdgePlane.Proofs.Round

/-!
# How a store keeps texts

A secret is written with texts. A store may keep them as they are written, or turn each into the bytes of
an entry, in place of an older entry of its key, and leave the other entries that it has. Whoever looks a
value up finds the same text in either case.
-/

namespace EdgePlane

open Kubernetes Simulation Text

namespace Dict

variable {κ α β : Type} [DecidableEq κ]

/-- The entries of one map, and those of another under all other keys. -/
def overlay (upper base : Dict κ α) : Dict κ α := upper.entries.foldr (fun e d => d.insert e.1 e.2) base

theorem get?_overlay (upper base : Dict κ α) (key : κ) :
    (upper.overlay base).get? key = (upper.get? key).or (base.get? key) := by
  obtain ⟨entries⟩ := upper
  induction entries with
  | nil => rfl
  | cons e rest ih =>
    change (((Dict.mk rest).overlay base).insert e.1 e.2).get? key = _
    rw [get?_insert, ih]
    change _ = (if e.1 = key then some e.2 else find? key rest).or (base.get? key)
    by_cases here : e.1 = key
    · rw [if_pos here.symm, if_pos here]
      rfl
    · rw [if_neg (Ne.symm here), if_neg here]
      rfl

theorem get?_map (f : α → β) (d : Dict κ α) (key : κ) : (d.map f).get? key = (d.get? key).map f := by
  obtain ⟨entries⟩ := d
  induction entries with
  | nil => rfl
  | cons e rest ih =>
    change (if e.1 = key then some (f e.2) else ((Dict.mk rest).map f).get? key) =
      (if e.1 = key then some e.2 else (Dict.mk rest).get? key).map f
    rw [ih]
    split <;> rfl

end Dict

/-- The bytes of a text are read as the text. -/
theorem Kubernetes.SecretData.value?_ofText (s : String) : (SecretData.ofText s).value? = some (.text s) := by
  rw [SecretData.ofText, SecretData.value?, Base64.textOfBytes?_eq_some_iff.2 rfl]
  rfl

/-- How a store keeps the texts of a secret that is written. -/
inductive Keeping
  | asWritten
  | asBytes
  deriving DecidableEq

namespace Keeping

/-- A secret with its texts as bytes, over the entries that stood there before. -/
def inBytes (old : Option Secret) (s : Secret) : Secret :=
  { s with
    data := some (((s.stringData.getD {}).map SecretData.ofText).overlay
      ((s.data.getD {}).overlay ((old.bind (·.data)).getD {})))
    stringData := none }

/-- What a store keeps of an object that is written in place of another. -/
def keep (k : Keeping) (old : Option Object) (o : Object) : Object :=
  match k, o with
  | asBytes, .secret s => .secret (inBytes (old.bind (·.secret?)) s)
  | _, o => o.keepingStatus old

/-- A secret that is written without entries says its texts afterwards, however they are kept. -/
theorem value?_keep (k : Keeping) (old : Option Object) {s : Secret} (plain : s.data = none) :
    ∃ kept, k.keep old (.secret s) = .secret kept ∧
      ∀ key text, s.stringData? key = some text → kept.value? key = some (.text text) := by
  cases k with
  | asWritten =>
    refine ⟨s, Object.keepingStatus_secret .., fun key text found => ?_⟩
    simp [Secret.value?, Secret.data?, plain, found]
  | asBytes =>
    refine ⟨_, rfl, fun key text found => ?_⟩
    obtain ⟨texts, held, found⟩ := Option.bind_eq_some_iff.1 found
    simp [Secret.value?, Secret.data?, inBytes, held, Dict.get?_overlay, Dict.get?_map, found,
      SecretData.value?_ofText]

end Keeping

namespace Part

/-- The object at an address of a store that keeps texts in some way. -/
def keptAt (k : Keeping) (a : Address) : Part (Option Object) where
  after old e :=
    match e.storedAt? a with
    | some o => some (k.keep old o)
    | none => old
  Fits := (objectAt a).Fits

variable {k : Keeping} {a : Address} {e : Event} {t : List Event} {old : Option Object}

/-- A store that keeps texts as they are written is the one that an object is seen in otherwise. -/
theorem keptAt_asWritten (a : Address) : keptAt .asWritten a = objectAt a := rfl

theorem keptAt_run (k : Keeping) (a : Address) (old : Option Object) (t : List Event) :
    (keptAt k a).run old t =
      (t.filterMap (·.storedAt? a)).foldl (fun old o => some (k.keep old o)) old := by
  induction t generalizing old with
  | nil => rfl
  | cons e t ih =>
    rw [run_cons, ih]
    cases h : e.storedAt? a <;> simp [keptAt, h]

theorem keptAt_run_of_unstored (h : ∀ e ∈ t, e.storedAt? a = none) : (keptAt k a).run old t = old := by
  rw [keptAt_run, List.filterMap_eq_nil_iff.2 h]
  rfl

/-- A lookup finds what stands there, if nothing was stored before it. -/
theorem found_of_admits {t₁ t₂ : List Event} {found : Option Object}
    (admitted : (keptAt k a).Admits old (t₁ ++ ⟨.get a, .ok found⟩ :: t₂))
    (before : ∀ e ∈ t₁, e.storedAt? a = none) : found = old := by
  obtain ⟨-, fits, -⟩ := (admits_append _ _ _ _).1 admitted
  rw [keptAt_run_of_unstored before] at fits
  exact fits rfl

end Part

namespace Keeping

open World (answersAt_answer)

variable (k : Keeping) (a : Address)

/-- Answers a call like the world does, for a store that keeps texts in some way. -/
def answer (c : Call) (w : World) : c.Reply × World :=
  let (r, v) := World.answer c w
  match (⟨c, r⟩ : Event).stored? with
  | some o =>
    (r, { v with cluster.objects :=
      v.cluster.objects.insert o.address (k.keep (w.cluster.object? o.address) o) })
  | none => (r, v)

/-- An answer fits what stands at an address, and tells what stands there after it. -/
theorem keptAt_answer (c : Call) (w : World) :
    (Part.keptAt k a).Fits (w.cluster.object? a) ⟨c, (k.answer c w).1⟩ ∧
      (k.answer c w).2.cluster.object? a =
        (Part.keptAt k a).after (w.cluster.object? a) ⟨c, (k.answer c w).1⟩ := by
  obtain ⟨fits, object, -⟩ := answersAt_answer a c w
  unfold answer
  cases stores : (⟨c, (World.answer c w).1⟩ : Event).stored? with
  | none =>
    have unstored : (⟨c, (World.answer c w).1⟩ : Event).storedAt? a = none := by
      rw [Event.storedAt?, stores]
      rfl
    simp only [stores]
    refine ⟨fits, ?_⟩
    rw [object, Part.objectAt_ignores unstored]
    simp [Part.keptAt, unstored]
  | some o =>
    simp only [stores]
    refine ⟨fits, ?_⟩
    rw [Cluster.object?, Dict.get?_insert]
    by_cases here : a = o.address
    · have stored : (⟨c, (World.answer c w).1⟩ : Event).storedAt? a = some o :=
        Event.storedAt?_eq_some.2 ⟨stores, here.symm⟩
      rw [if_pos here, here]
      rw [here] at stored
      simp [Part.keptAt, stored]
    · have unstored : (⟨c, (World.answer c w).1⟩ : Event).storedAt? a = none := by
        rw [Event.storedAt?, stores, Option.filter_some, if_neg (by simpa using Ne.symm here)]
      rw [if_neg here]
      change (World.answer c w).2.cluster.object? a = _
      rw [object, Part.objectAt_ignores unstored]
      simp [Part.keptAt, unstored]

/-- What stands at an address sees a run as it is. -/
theorem keptAt_trace {α : Type} (p : Program α) (w : World) :
    (Part.keptAt k a).Admits (w.cluster.object? a) (p.trace k.answer w) ∧
      (p.run k.answer w).2.cluster.object? a =
        (Part.keptAt k a).run (w.cluster.object? a) (p.trace k.answer w) := by
  induction p generalizing w with
  | pure _ => exact ⟨trivial, rfl⟩
  | call c f ih =>
    obtain ⟨fits, now⟩ := k.keptAt_answer a c w
    obtain ⟨admitted, final⟩ := ih (k.answer c w).1 (k.answer c w).2
    rw [now] at admitted final
    rw [Program.trace, Program.run]
    cases awake : c.isSleep with
    | false => exact ⟨⟨fits, admitted⟩, final⟩
    | true =>
      obtain ⟨d, rfl⟩ := Call.eq_sleep awake
      exact ⟨admitted, final⟩

end Keeping

namespace Reconcile

variable {settings : Setup}

/-- The controller's part of a pass in a world whose store keeps texts in some way. -/
def keptRound (settings : Setup) (k : Keeping) (w : World) (cp : ControlPlane) : Round settings :=
  ⟨cp, (controller settings cp).trace k.answer w,
    ((controller settings cp).run k.answer w).1, Program.plays_trace ..⟩

/-- Rounds after one another in such a world, one for each control plane. -/
def keptRounds (settings : Setup) (k : Keeping) : World → List ControlPlane → List (Round settings)
  | _, [] => []
  | w, cp :: cps => keptRound settings k w cp ::
    keptRounds settings k ((controller settings cp).run k.answer w).2 cps

theorem keptAt_keptRounds (settings : Setup) (k : Keeping) (a : Address) (w : World)
    (cps : List ControlPlane) :
    (Part.keptAt k a).Admits (w.cluster.object? a) (history (keptRounds settings k w cps)) := by
  induction cps generalizing w with
  | nil => trivial
  | cons cp cps ih =>
    obtain ⟨admitted, final⟩ := k.keptAt_trace a (controller settings cp) w
    refine (Part.admits_append _ _ _ _).2 ⟨admitted, ?_⟩
    exact final ▸ ih ((controller settings cp).run k.answer w).2

end Reconcile

end EdgePlane
