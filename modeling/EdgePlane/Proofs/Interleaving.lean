import EdgePlane.Proofs.Trace

/-!
# Interleavings

Programs that run side by side take turns, so their common trace holds the events of each in the order
of its own trace. Who has which turn depends on how long they sleep; what is proved of all interleavings
holds however long that is.
-/

namespace EdgePlane

/-- `Interleaving l r t`: the list `t` holds the elements of `l` and of `r`, each in their order. -/
inductive Interleaving {α : Type} : List α → List α → List α → Prop
  | nil : Interleaving [] [] []
  | left {l r t : List α} (e : α) (rest : Interleaving l r t) : Interleaving (e :: l) r (e :: t)
  | right {l r t : List α} (e : α) (rest : Interleaving l r t) : Interleaving l (e :: r) (e :: t)

namespace Interleaving

variable {α β : Type} {l r t : List α}

theorem swap (h : Interleaving l r t) : Interleaving r l t := by
  induction h with
  | nil => exact .nil
  | left e _ ih => exact .right e ih
  | right e _ ih => exact .left e ih

theorem nil_left (t : List α) : Interleaving [] t t := by
  induction t with
  | nil => exact .nil
  | cons e t ih => exact .right e ih

theorem mem_iff (h : Interleaving l r t) {e : α} : e ∈ t ↔ e ∈ l ∨ e ∈ r := by
  induction h with
  | nil => simp
  | left e _ ih => simp only [List.mem_cons, ih, or_assoc]
  | right e _ ih => simp only [List.mem_cons, ih, or_left_comm]

theorem forall_mem {P : α → Prop} (h : Interleaving l r t) (left : ∀ e ∈ l, P e)
    (right : ∀ e ∈ r, P e) : ∀ e ∈ t, P e :=
  fun e he => (h.mem_iff.1 he).elim (left e) (right e)

/-- Of three lists that are interleaved each can be taken as the first. -/
theorem regroup {l₁ l₂ : List α} (h : Interleaving l r t) (parts : Interleaving l₁ l₂ r) :
    ∃ u, Interleaving l₁ u t ∧ Interleaving l l₂ u := by
  induction h generalizing l₁ l₂ with
  | nil =>
    cases parts
    exact ⟨[], .nil, .nil⟩
  | left e _ ih =>
    obtain ⟨u, first, others⟩ := ih parts
    exact ⟨e :: u, first.right e, others.left e⟩
  | right e _ ih =>
    cases parts with
    | left _ rest =>
      obtain ⟨u, first, others⟩ := ih rest
      exact ⟨u, first.left e, others⟩
    | right _ rest =>
      obtain ⟨u, first, others⟩ := ih rest
      exact ⟨e :: u, first.right e, others.right e⟩

/-- What stands before and after a list is interleaved with it. -/
theorem surround (before l after : List α) :
    Interleaving l (before ++ after) (before ++ (l ++ after)) := by
  induction before with
  | nil =>
    induction l with
    | nil => exact nil_left after
    | cons e l ih => exact ih.left e
  | cons e before ih => exact ih.right e

/-- Where an element of one list stands, the interleaving has a split. -/
theorem split {e : α} {l₁ l₂ : List α} (h : Interleaving (l₁ ++ e :: l₂) r t) :
    ∃ r₁ r₂ t₁ t₂, r = r₁ ++ r₂ ∧ t = t₁ ++ e :: t₂ ∧ Interleaving l₁ r₁ t₁ ∧
      Interleaving l₂ r₂ t₂ := by
  generalize hl : l₁ ++ e :: l₂ = l at h
  induction h generalizing l₁ with
  | nil => simp at hl
  | @left l r t x rest ih =>
    cases l₁ with
    | nil =>
      obtain ⟨rfl, rfl⟩ := List.cons.inj hl
      exact ⟨[], r, [], t, rfl, rfl, .nil, rest⟩
    | cons y l₁ =>
      obtain ⟨rfl, tail⟩ := List.cons.inj hl
      obtain ⟨r₁, r₂, t₁, t₂, rfl, rfl, before, after⟩ := ih tail
      exact ⟨r₁, r₂, y :: t₁, t₂, rfl, rfl, before.left y, after⟩
  | right x rest ih =>
    obtain ⟨r₁, r₂, t₁, t₂, rfl, rfl, before, after⟩ := ih hl
    exact ⟨x :: r₁, r₂, x :: t₁, t₂, rfl, rfl, before.right x, after⟩

/-- Where an interleaving is cut, so are both lists. -/
theorem cut {t₁ t₂ : List α} (h : Interleaving l r (t₁ ++ t₂)) :
    ∃ l₁ l₂ r₁ r₂, l = l₁ ++ l₂ ∧ r = r₁ ++ r₂ ∧ Interleaving l₁ r₁ t₁ ∧ Interleaving l₂ r₂ t₂ := by
  induction t₁ generalizing l r with
  | nil => exact ⟨[], l, [], r, rfl, rfl, .nil, h⟩
  | cons x t₁ ih =>
    cases h with
    | left _ rest =>
      obtain ⟨l₁, l₂, r₁, r₂, rfl, rfl, before, after⟩ := ih rest
      exact ⟨x :: l₁, l₂, r₁, r₂, rfl, rfl, before.left x, after⟩
    | right _ rest =>
      obtain ⟨l₁, l₂, r₁, r₂, rfl, rfl, before, after⟩ := ih rest
      exact ⟨l₁, l₂, x :: r₁, r₂, rfl, rfl, before.right x, after⟩

theorem sublist_left (h : Interleaving l r t) : l.Sublist t := by
  induction h with
  | nil => exact .slnil
  | left e _ ih => exact ih.cons_cons e
  | right e _ ih => exact ih.cons e

/-- What a function picks from an interleaving is an interleaving of what it picks from the parts. -/
theorem filterMap (h : Interleaving l r t) (f : α → Option β) :
    Interleaving (l.filterMap f) (r.filterMap f) (t.filterMap f) := by
  induction h with
  | nil => exact .nil
  | left e _ ih =>
    cases hf : f e with
    | none => simpa only [List.filterMap_cons, hf] using ih
    | some b => simpa only [List.filterMap_cons, hf] using ih.left b
  | right e _ ih =>
    cases hf : f e with
    | none => simpa only [List.filterMap_cons, hf] using ih
    | some b => simpa only [List.filterMap_cons, hf] using ih.right b

theorem append {l' r' t' : List α} (h : Interleaving l r t) (h' : Interleaving l' r' t') :
    Interleaving (l ++ l') (r ++ r') (t ++ t') := by
  induction h with
  | nil => exact h'
  | left e _ ih => exact ih.left e
  | right e _ ih => exact ih.right e

theorem eq_left (h : Interleaving l [] t) : t = l := by
  generalize hr : ([] : List α) = r at h
  induction h with
  | nil => rfl
  | left e _ ih => rw [ih hr]
  | right => cases hr

theorem eq_right (h : Interleaving [] r t) : t = r := h.swap.eq_left

/-- With at most one element there is just one order. -/
theorem eq_append (h : Interleaving l r t) (short : (l ++ r).length ≤ 1) : t = l ++ r := by
  cases l with
  | nil => exact h.eq_right
  | cons e l =>
    obtain ⟨rfl, rfl⟩ : l = [] ∧ r = [] := by
      simpa [List.length_eq_zero_iff] using short
    exact h.eq_left

end Interleaving

namespace Program

variable {α β : Type}

/-- Whatever `resume` plays with a partner is an interleaving of the traces of `p` and the partner. -/
def Interleaves (p : Program α) (resume : Program β → Program (α × β)) : Prop :=
  ∀ q t a b, (resume q).Plays t (a, b) →
    ∃ l r, Interleaving l r t ∧ p.Plays l a ∧ q.Plays r b

theorem Interleaves.giveTurn {p : Program α} {resume : Program β → Program (α × β)}
    (h : p.Interleaves resume) : p.Interleaves (giveTurn resume) := by
  intro q
  induction q with
  | pure b => exact h (.pure b)
  | call c k ih =>
    intro t a b plays
    cases awake : c.isSleep with
    | true =>
      obtain ⟨d, rfl⟩ := Call.eq_sleep awake
      exact h _ _ _ _ plays
    | false =>
      have step : Program.giveTurn resume (.call c k) =
          .call c fun r => Program.giveTurn resume (k r) := by
        cases c <;> first | rfl | simp [Call.isSleep] at awake
      rw [step, plays_call awake] at plays
      obtain ⟨answer, t, rfl, rest⟩ := plays
      obtain ⟨l, r, hlr, hp, hq⟩ := ih answer t a b rest
      exact ⟨l, _, hlr.right _, hp, .call awake answer hq⟩

theorem Interleaves.whileAsleep {p : Program α} {resume : Program β → Program (α × β)}
    (h : p.Interleaves resume) (d : Duration) : p.Interleaves (whileAsleep d resume) := by
  intro q
  induction q generalizing d with
  | pure b =>
    intro t a b plays
    simp only [Program.whileAsleep, sleepThen, plays_sleep, exists_const] at plays
    exact h _ _ _ _ plays
  | call c k ih =>
    intro t a b plays
    cases awake : c.isSleep with
    | true =>
      obtain ⟨e, rfl⟩ := Call.eq_sleep awake
      rw [Program.whileAsleep] at plays
      split at plays
      · simp only [sleepThen, plays_sleep, exists_const] at plays
        obtain ⟨l, r, hlr, hp, hq⟩ := h _ _ _ _ plays
        simp only [plays_sleep, exists_const] at hq
        exact ⟨l, r, hlr, hp, .sleep true hq⟩
      · simp only [sleepThen, plays_sleep, exists_const] at plays
        obtain ⟨l, r, hlr, hp, hq⟩ := ih true _ _ _ _ plays
        exact ⟨l, r, hlr, hp, .sleep true hq⟩
    | false =>
      have step : Program.whileAsleep d resume (.call c k) =
          .call c fun r => Program.whileAsleep d resume (k r) := by
        cases c <;> first | rfl | simp [Call.isSleep] at awake
      rw [step, plays_call awake] at plays
      obtain ⟨answer, t, rfl, rest⟩ := plays
      obtain ⟨l, r, hlr, hp, hq⟩ := ih answer d t a b rest
      exact ⟨l, _, hlr.right _, hp, .call awake answer hq⟩

/-- Two programs side by side play an interleaving of their traces. -/
theorem interleaves_both (p : Program α) : p.Interleaves (both (β := β) p) := by
  induction p with
  | pure a =>
    intro q t a' b plays
    obtain ⟨t₁, b', t₂, rfl, hq, rest⟩ := plays_bind.1 plays
    obtain ⟨rfl, h⟩ := plays_pure.1 rest
    cases h
    exact ⟨[], t₁, by simpa using Interleaving.nil_left t₁, .pure a, hq⟩
  | call c k ih =>
    intro q t a b plays
    cases awake : c.isSleep with
    | true =>
      obtain ⟨d, rfl⟩ := Call.eq_sleep awake
      rw [both] at plays
      split at plays
      · obtain ⟨isTurn, plays⟩ := plays_sleep.1 plays
        cases isTurn with
        | true =>
          obtain ⟨l, r, hlr, hp, hq⟩ := (ih true).giveTurn _ _ _ _ plays
          exact ⟨l, r, hlr, .sleep true hp, hq⟩
        | false =>
          obtain ⟨l, r, hlr, hp, hq⟩ := ih false _ _ _ _ plays
          exact ⟨l, r, hlr, .sleep false hp, hq⟩
      · obtain ⟨l, r, hlr, hp, hq⟩ := (ih true).whileAsleep d _ _ _ _ plays
        exact ⟨l, r, hlr, .sleep true hp, hq⟩
    | false =>
      have step : both (.call c k) q = .call c fun r => both (k r) q := by
        cases c <;> first | rfl | simp [Call.isSleep] at awake
      rw [step, plays_call awake] at plays
      obtain ⟨answer, t, rfl, rest⟩ := plays
      obtain ⟨l, r, hlr, hp, hq⟩ := ih answer q t a b rest
      exact ⟨_, r, hlr.left _, .call awake answer hp, hq⟩

/-- Three programs side by side play an interleaving of their three traces. -/
theorem plays_joinAll {p₁ p₂ p₃ : Program α} {t : List Event} {as : List α}
    (plays : (joinAll [p₁, p₂, p₃]).Plays t as) :
    ∃ t₁ t₂ t₃ u a₁ a₂ a₃, Interleaving t₁ u t ∧ Interleaving t₂ t₃ u ∧ as = [a₁, a₂, a₃] ∧
      p₁.Plays t₁ a₁ ∧ p₂.Plays t₂ a₂ ∧ p₃.Plays t₃ a₃ := by
  have cons {p : Program α} {ps : List (Program α)} {t : List Event} {as : List α}
      (plays : (joinAll (p :: ps)).Plays t as) :
      ∃ t₁ u a bs, Interleaving t₁ u t ∧ as = a :: bs ∧ p.Plays t₁ a ∧ (joinAll ps).Plays u bs := by
    obtain ⟨t', ⟨a, bs⟩, t'', rfl, hboth, rest⟩ := plays_bind.1 plays
    obtain ⟨rfl, rfl⟩ := plays_pure.1 rest
    obtain ⟨l, r, hlr, hp, hps⟩ := interleaves_both p _ _ _ _ hboth
    exact ⟨l, r, a, bs, by simpa using hlr, rfl, hp, hps⟩
  obtain ⟨t₁, u, a₁, _, h₁, rfl, play₁, plays⟩ := cons plays
  obtain ⟨t₂, v, a₂, _, h₂, rfl, play₂, plays⟩ := cons plays
  obtain ⟨t₃, v', a₃, _, h₃, rfl, play₃, plays⟩ := cons plays
  obtain ⟨rfl, rfl⟩ := plays_pure.1 plays
  exact ⟨t₁, t₂, t₃, u, a₁, a₂, a₃, h₁, h₃.eq_left ▸ h₂, rfl, play₁, play₂, play₃⟩

end Program

end EdgePlane
