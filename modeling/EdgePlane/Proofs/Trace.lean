import EdgePlane.Program

/-!
# Traces

What a program does to the outside is told by its trace: its calls in their order, each with the answer
that it got. A trace says nothing about who answers. Sleeping leaves nothing in a trace, since no other
call can tell how long a program slept.

`Plays` relates a program, a trace and what the program results in. The laws below take a program apart
along its construction. For attempts there are two relations, one for those that succeed and one for
those that fail.
-/

namespace EdgePlane

open Kubernetes Management

/-- Whether a call only lets time pass. -/
def Call.isSleep : Call → Bool
  | .sleep _ => true
  | _ => false

theorem Call.eq_sleep {c : Call} (h : c.isSleep = true) : ∃ d, c = .sleep d := by
  cases c with
  | sleep d => exact ⟨d, rfl⟩
  | _ => cases h

/-- A call with its answer. -/
structure Event where
  call : Call
  reply : call.Reply

namespace Program

variable {α β σ : Type}

/-- `p.Plays t a`: with the answers of the trace `t` the program `p` makes just the calls of `t`, and
results in `a`. -/
inductive Plays : Program α → List Event → α → Prop
  | pure (a : α) : Plays (.pure a) [] a
  | call {c : Call} {k : c.Reply → Program α} {t : List Event} {a : α} (awake : c.isSleep = false)
      (r : c.Reply) (rest : Plays (k r) t a) : Plays (.call c k) (⟨c, r⟩ :: t) a
  | sleep {d : Duration} {k : Bool → Program α} {t : List Event} {a : α} (isTurn : Bool)
      (rest : Plays (k isTurn) t a) : Plays (.call (.sleep d) k) t a

@[simp] theorem plays_pure {a b : α} {t : List Event} :
    (Program.pure a).Plays t b ↔ t = [] ∧ b = a := by
  constructor
  · intro h
    cases h
    exact ⟨rfl, rfl⟩
  · rintro ⟨rfl, rfl⟩
    exact .pure b

theorem plays_call {c : Call} (awake : c.isSleep = false) {k : c.Reply → Program α}
    {t : List Event} {a : α} :
    (Program.call c k).Plays t a ↔ ∃ r t', t = ⟨c, r⟩ :: t' ∧ (k r).Plays t' a := by
  constructor
  · intro h
    cases h with
    | call _ r rest => exact ⟨r, _, rfl, rest⟩
    | sleep => simp [Call.isSleep] at awake
  · rintro ⟨r, t', rfl, h⟩
    exact .call awake r h

@[simp] theorem plays_sleep {d : Duration} {k : Bool → Program α} {t : List Event} {a : α} :
    (Program.call (.sleep d) k).Plays t a ↔ ∃ b, (k b).Plays t a := by
  constructor
  · intro h
    cases h with
    | call awake => simp [Call.isSleep] at awake
    | sleep b rest => exact ⟨b, rest⟩
  · rintro ⟨b, h⟩
    exact .sleep b h

/-- A single call plays the trace of its one answer. -/
theorem plays_perform {c : Call} (awake : c.isSleep = false) {t : List Event} {r : c.Reply} :
    (perform c).Plays t r ↔ t = [⟨c, r⟩] := by
  rw [perform, plays_call awake]
  constructor
  · rintro ⟨r', t', rfl, h⟩
    obtain ⟨rfl, rfl⟩ := plays_pure.1 h
    rfl
  · rintro rfl
    exact ⟨r, [], rfl, .pure r⟩

/-- The trace of two programs after one another is the trace of the first and then that of the
second. -/
theorem plays_bind {p : Program α} {f : α → Program β} {t : List Event} {b : β} :
    (p >>= f).Plays t b ↔ ∃ t₁ a t₂, t = t₁ ++ t₂ ∧ p.Plays t₁ a ∧ (f a).Plays t₂ b := by
  change (p.bind f).Plays t b ↔ _
  constructor
  · intro h
    induction p generalizing t with
    | pure a => exact ⟨[], a, t, rfl, .pure a, h⟩
    | call c k ih =>
      rw [Program.bind] at h
      cases h with
      | call awake r rest =>
        obtain ⟨t₁, a, t₂, rfl, h₁, h₂⟩ := ih r rest
        exact ⟨⟨c, r⟩ :: t₁, a, t₂, rfl, .call awake r h₁, h₂⟩
      | sleep b rest =>
        obtain ⟨t₁, a, t₂, rfl, h₁, h₂⟩ := ih b rest
        exact ⟨t₁, a, t₂, rfl, .sleep b h₁, h₂⟩
  · rintro ⟨t₁, a, t₂, rfl, h₁, h₂⟩
    induction h₁ with
    | pure a => exact h₂
    | call awake r _ ih => exact .call awake r (ih h₂)
    | sleep b _ ih => exact .sleep b (ih h₂)

/-- The trace of a run against a state that answers the calls. -/
def trace (answer : (c : Call) → σ → c.Reply × σ) : Program α → σ → List Event
  | .pure _, _ => []
  | .call c k, s =>
    let rest := trace answer (k (answer c s).1) (answer c s).2
    if c.isSleep then rest else ⟨c, (answer c s).1⟩ :: rest

/-- A run plays its trace. -/
theorem plays_trace (answer : (c : Call) → σ → c.Reply × σ) (p : Program α) (s : σ) :
    p.Plays (p.trace answer s) (p.run answer s).1 := by
  induction p generalizing s with
  | pure a => exact .pure a
  | call c k ih =>
    have rest := ih (answer c s).1 (answer c s).2
    rw [trace, run]
    cases awake : c.isSleep with
    | false => exact .call awake _ rest
    | true =>
      obtain ⟨d, rfl⟩ := Call.eq_sleep awake
      exact .sleep _ rest

/-- All calls that a program can make satisfy `P`. -/
def Only (P : Call → Prop) : Program α → Prop
  | .pure _ => True
  | .call c k => P c ∧ ∀ r, Only P (k r)

theorem Only.bind {P : Call → Prop} {p : Program α} {f : α → Program β} (hp : p.Only P)
    (hf : ∀ a, (f a).Only P) : (p >>= f).Only P := by
  induction p with
  | pure a => exact hf a
  | call c k ih => exact ⟨hp.1, fun r => ih r (hp.2 r)⟩

theorem Only.mono {P Q : Call → Prop} (h : ∀ c, P c → Q c) {p : Program α} (hp : p.Only P) :
    p.Only Q := by
  induction p with
  | pure a => trivial
  | call c k ih => exact ⟨h c hp.1, fun r => ih r (hp.2 r)⟩

theorem Only.perform {P : Call → Prop} {c : Call} (h : P c) : (Program.perform c).Only P :=
  ⟨h, fun _ => trivial⟩

theorem Plays.only {P : Call → Prop} {p : Program α} {t : List Event} {a : α} (h : p.Plays t a)
    (hp : p.Only P) : ∀ e ∈ t, P e.call := by
  induction h with
  | pure a => simp
  | call awake r _ ih =>
    intro e he
    rcases List.mem_cons.1 he with rfl | he
    · exact hp.1
    · exact ih (hp.2 r) e he
  | sleep b _ ih => exact ih (hp.2 b)

end Program

namespace Attempt

variable {α β : Type}

/-- `x.Yields t a`: with the answers of `t` the attempt succeeds with `a`. -/
def Yields (x : Attempt α) (t : List Event) (a : α) : Prop := Program.Plays x.run t (.ok a)

/-- `x.Fails t e`: with the answers of `t` the attempt fails because of `e`. -/
def Fails (x : Attempt α) (t : List Event) (e : Failure) : Prop := Program.Plays x.run t (.error e)

/-- All calls that an attempt can make satisfy `P`. -/
def Only (P : Call → Prop) (x : Attempt α) : Prop := Program.Only P x.run

theorem yields_bind {x : Attempt α} {f : α → Attempt β} {t : List Event} {b : β} :
    (x >>= f).Yields t b ↔ ∃ t₁ a t₂, t = t₁ ++ t₂ ∧ x.Yields t₁ a ∧ (f a).Yields t₂ b := by
  unfold Yields
  rw [ExceptT.run_bind, Program.plays_bind]
  constructor
  · rintro ⟨t₁, r, t₂, rfl, h₁, h₂⟩
    cases r with
    | ok a => exact ⟨t₁, a, t₂, rfl, h₁, h₂⟩
    | error e =>
      obtain ⟨-, h⟩ := Program.plays_pure.1 h₂
      cases h
  · rintro ⟨t₁, a, t₂, rfl, h₁, h₂⟩
    exact ⟨t₁, .ok a, t₂, rfl, h₁, h₂⟩

theorem fails_bind {x : Attempt α} {f : α → Attempt β} {t : List Event} {e : Failure} :
    (x >>= f).Fails t e ↔
      x.Fails t e ∨ ∃ t₁ a t₂, t = t₁ ++ t₂ ∧ x.Yields t₁ a ∧ (f a).Fails t₂ e := by
  unfold Fails Yields
  rw [ExceptT.run_bind, Program.plays_bind]
  constructor
  · rintro ⟨t₁, r, t₂, rfl, h₁, h₂⟩
    cases r with
    | ok a => exact .inr ⟨t₁, a, t₂, rfl, h₁, h₂⟩
    | error e' =>
      obtain ⟨rfl, h⟩ := Program.plays_pure.1 h₂
      cases h
      exact .inl (by simpa using h₁)
  · rintro (h | ⟨t₁, a, t₂, rfl, h₁, h₂⟩)
    · exact ⟨t, .error e, [], by simp, h, .pure _⟩
    · exact ⟨t₁, .ok a, t₂, rfl, h₁, h₂⟩

/-- However attempts after one another end, the first fails, or the second ends like that. -/
theorem plays_bind {x : Attempt α} {f : α → Attempt β} {t : List Event} {r : Except Failure β}
    (h : Program.Plays (x >>= f).run t r) :
    (∃ e, x.Fails t e ∧ r = .error e) ∨
      ∃ t₁ a t₂, t = t₁ ++ t₂ ∧ x.Yields t₁ a ∧ Program.Plays (f a).run t₂ r := by
  cases r with
  | ok b => exact .inr (yields_bind.1 h)
  | error e => exact (fails_bind.1 h).imp (fun h => ⟨e, h, rfl⟩) id

@[simp] theorem yields_pure {a b : α} {t : List Event} :
    (pure a : Attempt α).Yields t b ↔ t = [] ∧ b = a := by
  change (Program.pure (Except.ok a)).Plays t (.ok b) ↔ _
  simp

@[simp] theorem fails_pure {a : α} {t : List Event} {e : Failure} :
    (pure a : Attempt α).Fails t e ↔ False := by
  change (Program.pure (Except.ok a)).Plays t (.error e) ↔ _
  simp

@[simp] theorem yields_throw {a : α} {t : List Event} {e : Failure} :
    (throw e : Attempt α).Yields t a ↔ False := by
  change (Program.pure (Except.error e)).Plays t (.ok a) ↔ _
  simp

@[simp] theorem fails_throw {t : List Event} {e e' : Failure} :
    (throw e : Attempt α).Fails t e' ↔ t = [] ∧ e' = e := by
  change (Program.pure (Except.error e)).Plays t (.error e') ↔ _
  simp

/-- An attempt with a remedy yields what it yields itself, or what the remedy yields for its
failure. -/
theorem yields_tryCatch {x : Attempt α} {f : Failure → Attempt α} {t : List Event} {a : α} :
    (tryCatch x f).Yields t a ↔
      x.Yields t a ∨ ∃ t₁ e t₂, t = t₁ ++ t₂ ∧ x.Fails t₁ e ∧ (f e).Yields t₂ a := by
  change Program.Plays (x.run >>= _) t _ ↔ _
  rw [Program.plays_bind]
  constructor
  · rintro ⟨t₁, r, t₂, rfl, h₁, h₂⟩
    cases r with
    | ok b =>
      obtain ⟨rfl, h⟩ := Program.plays_pure.1 h₂
      cases h
      exact .inl (by rwa [List.append_nil])
    | error e => exact .inr ⟨t₁, e, t₂, rfl, h₁, h₂⟩
  · rintro (h | ⟨t₁, e, t₂, rfl, h₁, h₂⟩)
    · exact ⟨t, .ok a, [], by simp, h, .pure _⟩
    · exact ⟨t₁, .error e, t₂, rfl, h₁, h₂⟩

/-- An attempt with a remedy fails when the remedy fails. -/
theorem fails_tryCatch {x : Attempt α} {f : Failure → Attempt α} {t : List Event} {e : Failure} :
    (tryCatch x f).Fails t e ↔
      ∃ t₁ e' t₂, t = t₁ ++ t₂ ∧ x.Fails t₁ e' ∧ (f e').Fails t₂ e := by
  change Program.Plays (x.run >>= _) t _ ↔ _
  rw [Program.plays_bind]
  constructor
  · rintro ⟨t₁, r, t₂, rfl, h₁, h₂⟩
    cases r with
    | ok b =>
      obtain ⟨-, h⟩ := Program.plays_pure.1 h₂
      cases h
    | error e' => exact ⟨t₁, e', t₂, rfl, h₁, h₂⟩
  · rintro ⟨t₁, e', t₂, rfl, h₁, h₂⟩
    exact ⟨t₁, .error e', t₂, rfl, h₁, h₂⟩

theorem yields_bind_pure {x : Attempt α} {f : α → β} {t : List Event} {b : β} :
    (x >>= fun a => pure (f a)).Yields t b ↔ ∃ a, x.Yields t a ∧ b = f a := by
  rw [yields_bind]
  constructor
  · rintro ⟨t₁, a, t₂, rfl, h₁, h₂⟩
    obtain ⟨rfl, rfl⟩ := yields_pure.1 h₂
    exact ⟨a, by rwa [List.append_nil], rfl⟩
  · rintro ⟨a, h, rfl⟩
    exact ⟨t, a, [], by simp, h, yields_pure.2 ⟨rfl, rfl⟩⟩

theorem fails_bind_pure {x : Attempt α} {f : α → β} {t : List Event} {e : Failure} :
    (x >>= fun a => pure (f a)).Fails t e ↔ x.Fails t e := by
  simp [fails_bind]

@[simp] theorem yields_ofExcept {r : Except Failure α} {t : List Event} {a : α} :
    (ofExcept r).Yields t a ↔ t = [] ∧ r = .ok a := by
  change (Program.pure r).Plays t (.ok a) ↔ _
  simp [eq_comm]

@[simp] theorem fails_ofExcept {r : Except Failure α} {t : List Event} {e : Failure} :
    (ofExcept r).Fails t e ↔ t = [] ∧ r = .error e := by
  change (Program.pure r).Plays t (.error e) ↔ _
  simp [eq_comm]

@[simp] theorem yields_ofProgram {p : Program α} {t : List Event} {a : α} :
    (ofProgram p).Yields t a ↔ p.Plays t a := by
  change (p >>= fun a => Program.pure (Except.ok a)).Plays t (.ok a) ↔ _
  rw [Program.plays_bind]
  constructor
  · rintro ⟨t₁, b, t₂, rfl, h₁, h₂⟩
    obtain ⟨rfl, h⟩ := Program.plays_pure.1 h₂
    cases h
    rwa [List.append_nil]
  · intro h
    exact ⟨t, a, [], by simp, h, .pure _⟩

@[simp] theorem fails_ofProgram {p : Program α} {t : List Event} {e : Failure} :
    (ofProgram p).Fails t e ↔ False := by
  change (p >>= fun a => Program.pure (Except.ok a)).Plays t (.error e) ↔ _
  simp [Program.plays_bind]

@[simp] theorem yields_get {a : Address} {t : List Event} {r : Option Object} :
    (get a).Yields t r ↔ t = [⟨.get a, .ok r⟩] := Program.plays_perform rfl

@[simp] theorem fails_get {a : Address} {t : List Event} {e : Failure} :
    (get a).Fails t e ↔ t = [⟨.get a, .error e⟩] := Program.plays_perform rfl

@[simp] theorem yields_create {o : Object} {t : List Event} {u : Unit} :
    (create o).Yields t u ↔ t = [⟨.create o, .ok u⟩] := Program.plays_perform rfl

@[simp] theorem fails_create {o : Object} {t : List Event} {e : Failure} :
    (create o).Fails t e ↔ t = [⟨.create o, .error e⟩] := Program.plays_perform rfl

@[simp] theorem yields_apply {o : Object} {t : List Event} {u : Unit} :
    (apply o).Yields t u ↔ t = [⟨.apply o, .ok u⟩] := Program.plays_perform rfl

@[simp] theorem fails_apply {o : Object} {t : List Event} {e : Failure} :
    (apply o).Fails t e ↔ t = [⟨.apply o, .error e⟩] := Program.plays_perform rfl

@[simp] theorem yields_restart {ns name : String} {t : List Event} {u : Unit} :
    (restart ns name).Yields t u ↔ t = [⟨.restart ns name, .ok u⟩] := Program.plays_perform rfl

@[simp] theorem fails_restart {ns name : String} {t : List Event} {e : Failure} :
    (restart ns name).Fails t e ↔ t = [⟨.restart ns name, .error e⟩] := Program.plays_perform rfl

@[simp] theorem yields_connect {url : String} {t : List Event} {u : Unit} :
    (connect url).Yields t u ↔ t = [⟨.connect url, .ok u⟩] := Program.plays_perform rfl

@[simp] theorem fails_connect {url : String} {t : List Event} {e : Failure} :
    (connect url).Fails t e ↔ t = [⟨.connect url, .error e⟩] := Program.plays_perform rfl

@[simp] theorem yields_drawKey {t : List Event} {k : KeyPair} :
    drawKey.Yields t k ↔ t = [⟨.drawKey, k⟩] := by
  rw [drawKey, yields_ofProgram]
  exact Program.plays_perform rfl

@[simp] theorem fails_drawKey {t : List Event} {e : Failure} : drawKey.Fails t e ↔ False := by
  simp [drawKey]

@[simp] theorem yields_sleep {d : Duration} {t : List Event} {u : Unit} :
    (sleep d).Yields t u ↔ t = [] := by
  simp [sleep]

@[simp] theorem fails_sleep {d : Duration} {t : List Event} {e : Failure} :
    (sleep d).Fails t e ↔ False := by
  simp [sleep]

/-- What a call of the management interface yields is its answer, and it fails for what the answer
says. -/
theorem yields_viaApi {p : Program (Except ApiError α)} {t : List Event} {a : α} :
    (viaApi p).Yields t a ↔ p.Plays t (.ok a) := by
  rw [viaApi, yields_bind]
  constructor
  · rintro ⟨t₁, r, t₂, rfl, h₁, h₂⟩
    cases r with
    | ok b =>
      obtain ⟨rfl, rfl⟩ := yields_pure.1 h₂
      simpa [exactly] using h₁
    | error e => exact (yields_throw.1 h₂).elim
  · intro h
    exact ⟨t, .ok a, [], by simp, yields_ofProgram.2 h, yields_pure.2 ⟨rfl, rfl⟩⟩

theorem fails_viaApi {p : Program (Except ApiError α)} {t : List Event} {e : Failure} :
    (viaApi p).Fails t e ↔ ∃ cause, p.Plays t (.error cause) ∧ e = .api cause := by
  rw [viaApi, fails_bind]
  constructor
  · rintro (h | ⟨t₁, r, t₂, rfl, h₁, h₂⟩)
    · exact (fails_ofProgram.1 h).elim
    · cases r with
      | ok b => exact (fails_pure.1 h₂).elim
      | error cause =>
        obtain ⟨rfl, rfl⟩ := fails_throw.1 h₂
        exact ⟨cause, by simpa [exactly] using h₁, rfl⟩
  · rintro ⟨cause, h, rfl⟩
    exact .inr ⟨t, .error cause, [], by simp, yields_ofProgram.2 h, fails_throw.2 ⟨rfl, rfl⟩⟩

theorem yields_getSecret {ns name : String} {t : List Event} {s : Option Secret} :
    (getSecret ns name).Yields t s ↔
      ∃ o, t = [⟨.get ⟨.secret, ns, name⟩, .ok o⟩] ∧ s = o.bind (·.secret?) := by
  simp [getSecret, yields_bind_pure]

theorem fails_getSecret {ns name : String} {t : List Event} {e : Failure} :
    (getSecret ns name).Fails t e ↔ t = [⟨.get ⟨.secret, ns, name⟩, .error e⟩] := by
  simp [getSecret, fails_bind_pure]

theorem yields_discoverAddress {ns name : String} {t : List Event} {s : Option String} :
    (discoverAddress ns name).Yields t s ↔
      ∃ o, t = [⟨.get ⟨.service, ns, name⟩, .ok o⟩] ∧
        s = (o.bind (·.service?)).bind (·.externalAddress) := by
  simp [discoverAddress, yields_bind_pure]

end Attempt

end EdgePlane
