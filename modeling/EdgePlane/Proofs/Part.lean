import EdgePlane.Proofs.Interleaving

/-!
# Parts of the outside

A part of the outside is what a claim watches of it: an object at an address, or the users of a
management interface. It is described by what an event makes of it and by which events fit it, so it
says nothing of the rest of the outside, and nothing of the order in which calls to the rest are made.
A trace is admitted by a part if each of its events fits what the events before it made of the part.
-/

namespace EdgePlane

/-- A part of the outside with states in `σ`. -/
structure Part (σ : Type) where
  /-- What an event makes of a state. -/
  after : σ → Event → σ
  /-- Whether an event can happen in a state. -/
  Fits : σ → Event → Prop

namespace Part

variable {σ : Type} (P : Part σ)

/-- What a trace makes of a state. -/
def run : σ → List Event → σ := List.foldl P.after

/-- Whether each event of a trace can happen where it stands. -/
def Admits : σ → List Event → Prop
  | _, [] => True
  | s, e :: t => P.Fits s e ∧ Admits (P.after s e) t

/-- Whether an event leaves the part as it is. -/
def Ignores (e : Event) : Prop := ∀ s, P.after s e = s

@[simp] theorem run_nil (s : σ) : P.run s [] = s := rfl

@[simp] theorem run_cons (s : σ) (e : Event) (t : List Event) :
    P.run s (e :: t) = P.run (P.after s e) t := rfl

@[simp] theorem run_append (s : σ) (t u : List Event) :
    P.run s (t ++ u) = P.run (P.run s t) u := List.foldl_append

@[simp] theorem admits_nil (s : σ) : P.Admits s [] := trivial

@[simp] theorem admits_cons (s : σ) (e : Event) (t : List Event) :
    P.Admits s (e :: t) ↔ P.Fits s e ∧ P.Admits (P.after s e) t := Iff.rfl

@[simp] theorem admits_append (s : σ) (t u : List Event) :
    P.Admits s (t ++ u) ↔ P.Admits s t ∧ P.Admits (P.run s t) u := by
  induction t generalizing s with
  | nil => simp
  | cons e t ih => simp [ih, and_assoc]

variable {P}

theorem run_of_ignores {t : List Event} (h : ∀ e ∈ t, P.Ignores e) (s : σ) : P.run s t = s := by
  induction t generalizing s with
  | nil => rfl
  | cons e t ih =>
    rw [run_cons, h e (by simp) s]
    exact ih (fun e he => h e (by simp [he])) s

/-- What a part ignores of an interleaving counts neither for its state nor for what it admits. -/
theorem interleaving {l r t : List Event} (h : Interleaving l r t) (ignores : ∀ e ∈ r, P.Ignores e)
    (s : σ) : P.run s t = P.run s l ∧ (P.Admits s t → P.Admits s l) := by
  induction h generalizing s with
  | nil => exact ⟨rfl, id⟩
  | left e _ ih =>
    obtain ⟨hrun, hadmits⟩ := ih ignores (P.after s e)
    exact ⟨hrun, fun admitted => ⟨admitted.1, hadmits admitted.2⟩⟩
  | right e _ ih =>
    obtain ⟨hrun, hadmits⟩ := ih (fun e he => ignores e (by simp [he])) s
    have same : P.after s e = s := ignores e (by simp) s
    exact ⟨by rw [run_cons, same, hrun], fun admitted => hadmits (same ▸ admitted.2)⟩

/-- What each event of a trace keeps, the whole trace keeps. -/
theorem Admits.keeps {I : σ → Prop} {t : List Event}
    (step : ∀ e ∈ t, ∀ s, I s → P.Fits s e → I (P.after s e)) {s : σ} (hs : I s)
    (admitted : P.Admits s t) : I (P.run s t) := by
  induction t generalizing s with
  | nil => exact hs
  | cons e t ih =>
    exact ih (fun e he => step e (by simp [he])) (step e (by simp) s hs admitted.1) admitted.2

/-- Each event of a trace fits a state with what the events before it keep. -/
theorem Admits.fits {I : σ → Prop} {t : List Event}
    (step : ∀ e ∈ t, ∀ s, I s → P.Fits s e → I (P.after s e)) {s : σ} (hs : I s)
    (admitted : P.Admits s t) : ∀ e ∈ t, ∃ s, I s ∧ P.Fits s e := by
  intro e he
  obtain ⟨t₁, t₂, rfl⟩ := List.append_of_mem he
  rw [admits_append] at admitted
  exact ⟨_, Admits.keeps (fun e he => step e (by simp [he])) hs admitted.1, admitted.2.1⟩

/-- An event occurs in traces after one another exactly if it occurs in one of them, as it does when the
part is as the traces before leave it. -/
theorem mem_flatMap_iff {α : Type} {trace : α → List Event} {R : α → σ → Prop} {xs : List α} {e : Event}
    {s : σ} (occurs : ∀ x ∈ xs, ∀ s, P.Admits s (trace x) → (e ∈ trace x ↔ R x s))
    (admitted : P.Admits s (xs.flatMap trace)) :
    e ∈ xs.flatMap trace ↔ ∃ l x l', xs = l ++ x :: l' ∧ R x (P.run s (l.flatMap trace)) := by
  induction xs generalizing s with
  | nil => simp
  | cons x xs ih =>
    rw [List.flatMap_cons, admits_append] at admitted
    rw [List.flatMap_cons, List.mem_append, occurs x (by simp) s admitted.1,
      ih (fun y hy => occurs y (by simp [hy])) admitted.2]
    constructor
    · rintro (here | ⟨l, y, l', rfl, later⟩)
      · exact ⟨[], x, xs, rfl, here⟩
      · exact ⟨x :: l, y, l', rfl, by rwa [List.flatMap_cons, run_append]⟩
    · rintro ⟨l, y, l', split, holds⟩
      cases l with
      | nil =>
        obtain ⟨rfl, rfl⟩ := List.cons.inj split
        exact .inl holds
      | cons z l =>
        obtain ⟨rfl, rfl⟩ := List.cons.inj split
        exact .inr ⟨l, y, l', rfl, by rwa [List.flatMap_cons, run_append] at holds⟩

end Part

end EdgePlane
