import EdgePlane.Proofs.Interleaving
import EdgePlane.Proofs.WorldTrace
import Mathlib.Logic.Function.Basic

/-!
# Programs that overlap

Any number of programs run at once, and at each call any of them may have its turn. Their common trace
says whose each event is, so what one of them played can be told from it. Which of them has which turn
is left open, or it is written out as a schedule and the turns are taken in a world.

Whoever draws a key gets a new one, so no two of the programs ever hold the same.
-/

namespace EdgePlane

open Kubernetes Management

variable {ι : Type} [DecidableEq ι]

/-- The events of one player in a trace of several. -/
def own (i : ι) (t : List (ι × Event)) : List Event :=
  t.filterMap fun x => if x.1 = i then some x.2 else none

theorem mem_own {i : ι} {e : Event} {t : List (ι × Event)} : e ∈ own i t ↔ (i, e) ∈ t := by
  simp only [own, List.mem_filterMap, Option.ite_none_right_eq_some, Option.some.injEq]
  constructor
  · rintro ⟨⟨j, e'⟩, member, rfl, rfl⟩
    exact member
  · intro member
    exact ⟨(i, e), member, rfl, rfl⟩

/-- What one player did, all of them together have done. -/
theorem mem_of_own {i : ι} {e : Event} {t : List (ι × Event)} (h : e ∈ own i t) :
    e ∈ t.map (·.2) :=
  List.mem_map.2 ⟨(i, e), mem_own.1 h, rfl⟩

theorem exists_own {e : Event} {t : List (ι × Event)} (h : e ∈ t.map (·.2)) : ∃ i, e ∈ own i t := by
  obtain ⟨⟨i, e'⟩, member, rfl⟩ := List.mem_map.1 h
  exact ⟨i, mem_own.2 member⟩

theorem own_cons (i j : ι) (e : Event) (t : List (ι × Event)) :
    own i ((j, e) :: t) = if j = i then e :: own i t else own i t := by
  unfold own
  split <;> simp [*]

/-- The trace of two players is an interleaving of what each of them did. -/
theorem interleaving_own (t : List (Bool × Event)) :
    Interleaving (own true t) (own false t) (t.map (·.2)) := by
  induction t with
  | nil => exact .nil
  | cons x t ih =>
    obtain ⟨i, e⟩ := x
    cases i with
    | true => simpa [own_cons] using ih.left e
    | false => simpa [own_cons] using ih.right e

/-- Programs that take turns play a trace if each of them plays its own events, and ends. -/
def TakeTurns {α : Type} (ps : ι → Program α) (t : List (ι × Event)) (as : ι → α) : Prop :=
  ∀ i, (ps i).Plays (own i t) (as i)

/-- `WritesLast i a o t`: the player `i` stores `o` at the address `a`, and after that nobody stores
anything there. -/
def WritesLast (i : ι) (a : Address) (o : Object) (t : List (ι × Event)) : Prop :=
  ∃ t₁ e t₂, t = t₁ ++ (i, e) :: t₂ ∧ e.storedAt? a = some o ∧ ∀ x ∈ t₂, x.2.storedAt? a = none

omit [DecidableEq ι] in
theorem exists_writesLast {a : Address} {o : Object} {e : Event} {t : List (ι × Event)}
    (he : e ∈ t.map (·.2)) (stores : e.storedAt? a = some o) : ∃ i o, WritesLast i a o t := by
  induction t generalizing e o with
  | nil => cases he
  | cons x t ih =>
    by_cases later : ∃ y ∈ t, ∃ o, y.2.storedAt? a = some o
    · obtain ⟨y, hy, o, stores⟩ := later
      obtain ⟨i, o, t₁, e, t₂, rfl, written⟩ := ih (List.mem_map_of_mem hy) stores
      exact ⟨i, o, x :: t₁, e, t₂, rfl, written⟩
    · have none : ∀ y ∈ t, y.2.storedAt? a = none := fun y hy =>
        Option.eq_none_iff_forall_ne_some.2 fun o h => later ⟨y, hy, o, h⟩
      rcases List.mem_cons.1 he with rfl | he
      · exact ⟨x.1, o, [], x.2, t, rfl, stores, none⟩
      · obtain ⟨y, hy, rfl⟩ := List.mem_map.1 he
        exact absurd ⟨y, hy, o, stores⟩ later

theorem WritesLast.mem_own {i : ι} {a : Address} {o : Object} {t : List (ι × Event)}
    (h : WritesLast i a o t) : ∃ e ∈ own i t, e.storedAt? a = some o := by
  obtain ⟨t₁, e, t₂, rfl, stores, -⟩ := h
  exact ⟨e, EdgePlane.mem_own.2 (by simp), stores⟩

omit [DecidableEq ι] in
/-- What is written last stands in the end. -/
theorem WritesLast.run {i : ι} {a : Address} {o : Object} {t : List (ι × Event)}
    (h : WritesLast i a o t) (old : Option Object) :
    ∃ before, (Part.objectAt a).run old (t.map (·.2)) = some (o.keepingStatus before) := by
  obtain ⟨t₁, e, t₂, rfl, stores, last⟩ := h
  refine ⟨(Part.objectAt a).run old (t₁.map (·.2)), ?_⟩
  rw [List.map_append, List.map_cons, Part.run_append, Part.run_cons,
    Part.objectAt_after_of_stored stores, Part.run_of_ignores]
  intro e he
  obtain ⟨x, hx, rfl⟩ := List.mem_map.1 he
  exact Part.objectAt_ignores (last x hx)

/-- The result of a program that has ended. -/
def Program.result? {α : Type} : Program α → Option α
  | .pure a => some a
  | .call _ _ => none

theorem Program.eq_pure {α : Type} {p : Program α} {a : α} (h : p.result? = some a) : p = .pure a := by
  cases p with
  | pure b => rw [Option.some.inj h]
  | call c k => cases h

namespace Part

/-- How many keys were drawn. -/
def keys : Part Nat where
  after n
    | ⟨.drawKey, _⟩ => n + 1
    | _ => n
  Fits n
    | ⟨.drawKey, key⟩ => key = ⟨n⟩
    | _ => True

theorem keys_after_le (n : Nat) (e : Event) : n ≤ keys.after n e := by
  unfold keys
  dsimp only
  split <;> omega

/-- A key that is drawn is none of those drawn before. -/
theorem keys_le {n : Nat} {t : List Event} {key : KeyPair} (admitted : keys.Admits n t)
    (drawn : ⟨.drawKey, key⟩ ∈ t) : n ≤ key.number := by
  induction t generalizing n with
  | nil => cases drawn
  | cons e t ih =>
    rcases List.mem_cons.1 drawn with rfl | drawn
    · obtain rfl : key = ⟨n⟩ := admitted.1
      exact Nat.le_refl n
    · exact Nat.le_trans (keys_after_le n e) (ih admitted.2 drawn)

/-- No two draw the same key. -/
theorem keys_own {n : Nat} {t : List (ι × Event)} {i j : ι} {key : KeyPair}
    (admitted : keys.Admits n (t.map (·.2))) (hi : ⟨.drawKey, key⟩ ∈ own i t)
    (hj : ⟨.drawKey, key⟩ ∈ own j t) : i = j := by
  induction t generalizing n with
  | nil => cases hi
  | cons x t ih =>
    rw [mem_own, List.mem_cons] at hi hj
    have later {k : ι} (first : (⟨.drawKey, key⟩ : Event) = x.2) (h : (k, ⟨.drawKey, key⟩) ∈ t) :
        False := by
      rw [List.map_cons, ← first] at admitted
      obtain rfl : key = ⟨n⟩ := admitted.1
      exact Nat.not_succ_le_self n (keys_le admitted.2 (mem_of_own (mem_own.2 h)))
    rcases hi with rfl | hi <;> rcases hj with hj | hj
    · exact congrArg Prod.fst hj.symm
    · exact (later rfl hj).elim
    · exact (later (congrArg Prod.snd hj) hi).elim
    · exact ih admitted.2 (mem_own.2 hi) (mem_own.2 hj)

end Part

namespace Simulation.World

theorem Follows.keys {w w' : World} {t : List Event} (h : w.Follows t w') :
    Part.keys.Admits w.keysDrawn t := by
  refine (h.seen (·.keysDrawn) (fun _ => True) (fun _ _ _ => rfl) (fun c w _ => ?_) trivial).1
  by_cases draws : c = .drawKey
  · subst draws
    exact ⟨trivial, rfl, rfl⟩
  · refine ⟨trivial, ?_, (keysDrawn_answer draws w).trans ?_⟩
    · cases c <;> trivial
    · cases c <;> first | rfl | exact absurd rfl draws

variable {α : Type}

/-- Lets programs take turns for a call each, in the order of a schedule. The results are what is left of
them, their trace and the world. -/
def turns : List ι → (ι → Program α) → World → (ι → Program α) × List (ι × Event) × World
  | [], ps, w => (ps, [], w)
  | i :: rest, ps, w =>
    match ps i with
    | .pure _ => turns rest ps w
    | .call c k =>
      let (ps, t, w') := turns rest (Function.update ps i (k (answer c w).1)) (answer c w).2
      (ps, if c.isSleep then t else (i, ⟨c, (answer c w).1⟩) :: t, w')

/-- What is left of the programs can follow what they have played. -/
theorem plays_turns (schedule : List ι) (ps : ι → Program α) (w : World) {i : ι} {u : List Event}
    {a : α} (rest : ((w.turns schedule ps).1 i).Plays u a) :
    (ps i).Plays (own i (w.turns schedule ps).2.1 ++ u) a := by
  induction schedule generalizing ps w with
  | nil => exact rest
  | cons j schedule ih =>
    cases turn : ps j with
    | pure b =>
      simp only [turns, turn] at rest ⊢
      exact ih ps w rest
    | call c k =>
      simp only [turns, turn] at rest ⊢
      have played := ih _ _ rest
      by_cases here : j = i
      · subst here
        rw [Function.update_self] at played
        rw [turn]
        cases awake : c.isSleep with
        | false => simpa [own_cons] using Program.Plays.call awake _ played
        | true =>
          obtain ⟨d, rfl⟩ := Call.eq_sleep awake
          exact .sleep _ played
      · rw [Function.update_of_ne (Ne.symm here)] at played
        cases awake : c.isSleep with
        | false => simpa [own_cons, here] using played
        | true => exact played

theorem follows_turns (schedule : List ι) (ps : ι → Program α) (w : World) :
    w.Follows ((w.turns schedule ps).2.1.map (·.2)) (w.turns schedule ps).2.2 := by
  induction schedule generalizing ps w with
  | nil => exact .done w
  | cons j schedule ih =>
    cases turn : ps j with
    | pure b =>
      simp only [turns, turn]
      exact ih ps w
    | call c k =>
      simp only [turns, turn]
      have rest := ih (Function.update ps j (k (answer c w).1)) (answer c w).2
      cases awake : c.isSleep with
      | false => exact .call c awake rest
      | true =>
        obtain ⟨d, rfl⟩ := Call.eq_sleep awake
        exact .sleep d rest

/-- Programs that have ended by the end of a schedule took turns. -/
theorem takeTurns_turns {schedule : List ι} {ps : ι → Program α} {w : World} {as : ι → α}
    (ended : ∀ i, ((w.turns schedule ps).1 i).result? = some (as i)) :
    TakeTurns ps (w.turns schedule ps).2.1 as := by
  intro i
  have played := plays_turns schedule ps w (i := i)
    (by rw [Program.eq_pure (ended i)]; exact .pure (as i))
  rwa [List.append_nil] at played

end Simulation.World

end EdgePlane
