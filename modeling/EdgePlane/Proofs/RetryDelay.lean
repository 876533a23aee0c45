import EdgePlane.Proofs.Locality
import EdgePlane.Proofs.Phases
import Mathlib.Data.Nat.Fib.Basic

/-!
# Delays after failed passes

A control plane whose passes fail is visited again after delays that grow like the Fibonacci numbers, up to
a limit; any other pass starts them anew. What the table of retries holds for a key is told by how many of
the key's last passes failed on end, whatever became of other keys meanwhile.
-/

namespace EdgePlane

namespace Backoff

variable {least most : Nat}

/-- The sequence after `n` of its delays were taken. Both of its numbers are capped Fibonacci numbers, since
what is remembered as the previous delay is capped already. -/
def after (least most n : Nat) : Backoff :=
  ⟨least, min most (least * Nat.fib n), min most (least * Nat.fib (n + 1)), most⟩

theorem start_eq_after (h : least ≤ most) : start least most = after least most 0 := by
  simp [start, after, h]

theorem reset_after (h : least ≤ most) (n : Nat) : (after least most n).reset = after least most 0 := by
  simp [reset, after, h]

theorem advance_after (least most n : Nat) : (after least most n).advance = after least most (n + 1) := by
  have sum : least * Nat.fib (n + 1 + 1) = least * Nat.fib n + least * Nat.fib (n + 1) := by
    rw [Nat.fib_add_two, Nat.mul_add]
  simp only [advance, after, sum, mk.injEq, true_and, and_true]
  omega

end Backoff

/-- The retry of an object whose last `n` passes failed. -/
def Retry.after (n : Nat) : Retry := ⟨.after 5 300 n, .ofNat n⟩

theorem Retry.fresh_eq_after : fresh = after 0 := by
  rw [fresh, Backoff.standard, Backoff.start_eq_after (by decide), after]
  rfl

/-- Whether a decision is that of a failed pass. -/
def Decision.isRetry : Decision → Bool
  | .retryOnError _ => true
  | _ => false

/-- The next visit that an outcome wishes for if it is not a failure. -/
def Outcome.wish (o : Outcome) : Action :=
  if o.requeue && !o.terminal then .requeue o.requeueAfter else .awaitChange

namespace Retries

variable {retries : Retries} {key other : String} {n : Nat}

theorem entry_insert (retries : Retries) (key other : String) (e : Retry) :
    entry (retries.insert key e) other = if other = key then e else retries.entry other := by
  rw [entry, entry, Dict.get?_insert]
  split <;> rfl

theorem entry_forget (retries : Retries) (key other : String) :
    (retries.forget key).entry other = if other = key then .after 0 else retries.entry other := by
  rw [entry, entry, forget, Dict.get?_erase, ← Retry.fresh_eq_after]
  split <;> rfl

/-- After a success the delays of a key start anew. -/
theorem entry_settle (h : retries.entry key = .after n) (other : String) :
    (retries.settle key).entry other = if other = key then .after 0 else retries.entry other := by
  unfold settle
  cases found : retries.get? key with
  | none =>
    have untouched : retries.entry key = .after 0 := by rw [entry, found, ← Retry.fresh_eq_after]; rfl
    by_cases here : other = key
    · rw [if_pos here, here, untouched]
    · rw [if_neg here]
  | some e =>
    obtain rfl : e = .after n := by rwa [entry, found] at h
    have anew : (⟨(Retry.after n).backoff.reset, 0⟩ : Retry) = .after 0 := by
      rw [Retry.after, Backoff.reset_after (by decide), Retry.after]
      rfl
    rw [entry_insert, anew]

/-- After the failure that follows `n` failures on end the next delay is the one of `n + 1`, which is also
the number that is reported. -/
theorem fail_of_entry (h : retries.entry key = .after n) :
    (retries.fail key).1 = (.ofSeconds (min 300 (5 * Nat.fib (n + 1))), .ofNat (n + 1)) ∧
      ∀ other, (retries.fail key).2.entry other =
        if other = key then .after (n + 1) else retries.entry other := by
  have counted : (retries.countError key).entry key = ⟨.after 5 300 n, .ofNat (n + 1)⟩ := by
    rw [countError, entry_insert, if_pos rfl, h, Retry.after, UInt32.ofNat_add]
    rfl
  refine ⟨by rw [fail, delay, counted]; rfl, fun other => ?_⟩
  rw [fail, delay, entry_insert, counted, Backoff.advance_after, Retry.after]
  split
  · rfl
  · rename_i elsewhere
    rw [countError, entry_insert, if_neg elsewhere]

/-- What is concluded for a key whose last `n` passes failed changes the table for this key alone. -/
theorem entry_conclude (h : retries.entry key = .after n) (d : Decision) (other : String) :
    (retries.conclude key d).2.entry other =
      if other = key then .after (if d.isRetry then n + 1 else 0) else retries.entry other := by
  cases d with
  | retryOnError cause => exact (fail_of_entry h).2 other
  | stop => exact entry_settle h other
  | requeueNow => exact entry_settle h other
  | requeueAfter delay => exact entry_settle h other

/-- What follows from an outcome that is not a failure is what it wishes for. -/
theorem conclude_of_not_failed {o : Outcome} (h : o.decision.isRetry = false) (retries : Retries)
    (key : String) : (retries.conclude key o.decision).1 = o.wish := by
  obtain ⟨failure, terminal, requeue, delay⟩ := o
  cases terminal with
  | true => simp [Outcome.decision, Outcome.wish, conclude, act]
  | false =>
    cases failure with
    | some e => simp [Outcome.decision, Decision.isRetry] at h
    | none =>
      cases requeue with
      | false => simp [Outcome.decision, Outcome.wish, conclude, act]
      | true => by_cases now : delay = .zero <;> simp [Outcome.decision, Outcome.wish, conclude, act, now]

end Retries

/-- The key whose retries an event drops. -/
def Event.forgotten? : Event → Option String
  | ⟨.forget key, _⟩ => some key
  | _ => none

/-- What the calls of a trace make of the retries: they only drop entries. -/
def Retries.afterCalls (retries : Retries) (t : List Event) : Retries :=
  (t.filterMap (·.forgotten?)).foldl .forget retries

namespace Simulation.World

/-- The retries of a world are as the trace leaves them. -/
theorem Follows.retries {w w' : World} {t : List Event} (h : w.Follows t w') :
    w'.retries = w.retries.afterCalls t := by
  induction h with
  | done w => rfl
  | @call w w' t c awake _ ih =>
    rw [ih]
    by_cases drops : ∃ key, c = .forget key
    · obtain ⟨key, rfl⟩ := drops
      rfl
    · have kept : (answer c w).2.retries = w.retries := retries_answer w fun key is => drops ⟨key, is⟩
      have silent : Event.forgotten? ⟨c, (answer c w).1⟩ = none := by
        cases c <;> first | rfl | exact absurd ⟨_, rfl⟩ drops
      rw [kept, Retries.afterCalls, Retries.afterCalls, List.filterMap_cons_none silent]
  | @sleep w w' t d _ ih => rw [ih, retries_answer w (by simp)]

end Simulation.World

namespace Reconcile

open Simulation (Visitor)

variable {settings : Setup}

/-- A visit that finds no control plane drops its retries and stops; no other visit drops any. -/
theorem Visits.forgets {ns name : String} {t : List Event} {o : Outcome} (h : Visits settings ns name t o) :
    (t.filterMap (·.forgotten?) = [ns ++ "/" ++ name] ∧ o = .stop) ∨
      (t.filterMap (·.forgotten?) = [] ∧ ⟨.fetch ns name, .ok none⟩ ∉ t) := by
  -- Of what follows a lookup that found one, none is a lookup of a control plane or drops anything.
  have rest {cp : ControlPlane} {u : List Event}
      (plain : ∀ e ∈ u, e.forgotten? = none ∧ e ≠ ⟨.fetch ns name, .ok none⟩) :
      (List.filterMap (·.forgotten?) (⟨.fetch ns name, .ok (some cp)⟩ :: u) = []) ∧
        ⟨.fetch ns name, .ok none⟩ ∉ (⟨.fetch ns name, .ok (some cp)⟩ :: u : List Event) := by
    refine ⟨?_, ?_⟩
    · rw [List.filterMap_cons_none rfl, List.filterMap_eq_nil_iff]
      exact fun e he => (plain e he).1
    · intro he
      rcases List.mem_cons.1 he with is | he
      · cases is
      · exact (plain _ he).2 rfl
  have entering {cp : ControlPlane} {before : List Event} (entry : Deploys cp before) :
      ∀ e ∈ before, e.forgotten? = none ∧ e ≠ ⟨.fetch ns name, .ok none⟩ := by
    intro e he
    obtain ⟨time, rfl | rfl⟩ := entry.mem he
    · exact ⟨rfl, nofun⟩
    · exact ⟨rfl, nofun⟩
  have parts {cp : ControlPlane} {m : List Event} (p : Parts settings cp m) :
      ∀ e ∈ m, e.forgotten? = none ∧ e ≠ ⟨.fetch ns name, .ok none⟩ := by
    intro e he
    refine ⟨?_, fun is => p.not_mem (by rw [is]; rfl) he⟩
    obtain ⟨c, r⟩ := e
    cases c with
    | forget key => exact absurd he (p.not_mem rfl)
    | _ => rfl
  cases h with
  | gone => exact .inl ⟨rfl, rfl⟩
  | unreadable e => exact .inr ⟨rfl, by simp⟩
  | idle cp phase => exact .inr (rest (by simp))
  | refused cp phase time e => exact .inr (rest (by simp [Event.forgotten?]))
  | pending cp before m entry p unclean =>
    refine .inr (rest fun e he => ?_)
    rcases List.mem_append.1 he with he | he
    · exact entering entry e he
    · exact parts p e he
  | converged cp before m entry p clean time r =>
    refine .inr (rest fun e he => ?_)
    simp only [List.mem_append, List.mem_cons, List.not_mem_nil, or_false] at he
    rcases he with he | he | rfl | rfl
    · exact entering entry e he
    · exact parts p e he
    · exact ⟨rfl, nofun⟩
    · exact ⟨rfl, nofun⟩

/-- A pass that has ended: whose it was, what was called and answered in it, and what it came to. -/
structure EndedPass (settings : Setup) where
  visitor : Visitor
  trace : List Event
  outcome : Outcome
  plays : (dispatch settings visitor.namespaceName visitor.name).Plays trace outcome

namespace EndedPass

def key (p : EndedPass settings) : String := p.visitor.key

/-- Whether a pass failed. -/
def isFailed (p : EndedPass settings) : Bool := p.outcome.decision.isRetry

/-- Whether a pass found no control plane. -/
def FoundNone (p : EndedPass settings) : Prop :=
  ⟨.fetch p.visitor.namespaceName p.visitor.name, .ok none⟩ ∈ p.trace

/-- The next action after a pass, and the table of retries. -/
def close (p : EndedPass settings) (retries : Retries) : Action × Retries :=
  (retries.afterCalls p.trace).conclude p.key p.outcome.decision

/-- The table after passes of which each found the one that the pass before it left. -/
def retriesAfter (history : List (EndedPass settings)) : Retries :=
  history.foldl (fun retries p => (p.close retries).2) {}

/-- How many of the last passes of a key failed on end. -/
def failures (key : String) (history : List (EndedPass settings)) : Nat :=
  ((history.filter (·.key = key)).reverse.takeWhile (·.isFailed)).length

theorem failures_append_singleton (key : String) (history : List (EndedPass settings))
    (p : EndedPass settings) : failures key (history ++ [p]) =
      if key = p.key then (if p.isFailed then failures key history + 1 else 0) else failures key history := by
  by_cases here : p.key = key
  · cases failed : p.isFailed <;> simp [failures, here, failed]
  · simp [failures, here, Ne.symm here]

/-- The end of a pass changes the table for the key of the pass alone. -/
theorem entry_close (p : EndedPass settings) {retries : Retries} {n : Nat}
    (h : retries.entry p.key = .after n) (other : String) : (p.close retries).2.entry other =
      if other = p.key then .after (if p.isFailed then n + 1 else 0) else retries.entry other := by
  rcases (visits_of_plays p.plays).forgets with ⟨drops, stops⟩ | ⟨keeps, -⟩
  · have dropped : retries.afterCalls p.trace = retries.forget p.key := by
      rw [Retries.afterCalls, drops]
      rfl
    have anew : (retries.forget p.key).entry p.key = .after 0 := by
      rw [Retries.entry_forget, if_pos rfl]
    rw [close, dropped, Retries.entry_conclude anew, isFailed, stops, Retries.entry_forget]
    by_cases here : other = p.key
    · rw [if_pos here, if_pos here]
      rfl
    · simp [here]
  · have same : retries.afterCalls p.trace = retries := by
      rw [Retries.afterCalls, keeps]
      rfl
    rw [close, same, Retries.entry_conclude h, isFailed]

/-- What the table holds for a key is told by how many of its last passes failed on end. -/
theorem entry_retriesAfter (history : List (EndedPass settings)) (key : String) :
    (retriesAfter history).entry key = .after (failures key history) := by
  induction history using List.reverseRecOn generalizing key with
  | nil => exact Retry.fresh_eq_after
  | append_singleton history p ih =>
    have step : retriesAfter (history ++ [p]) = (p.close (retriesAfter history)).2 := by
      simp [retriesAfter]
    rw [step, p.entry_close (ih p.key), failures_append_singleton]
    by_cases here : key = p.key
    · rw [if_pos here, if_pos here, here]
    · rw [if_neg here, if_neg here, ih]

/-- Only a pass that stops drops retries. -/
theorem afterCalls_of_failed (p : EndedPass settings) (failed : p.isFailed = true) (retries : Retries) :
    retries.afterCalls p.trace = retries := by
  rcases (visits_of_plays p.plays).forgets with ⟨-, stops⟩ | ⟨keeps, -⟩
  · rw [isFailed, stops] at failed
    cases failed
  · rw [Retries.afterCalls, keeps]
    rfl

/-- After any passes of any keys: the `n`-th failure of a key on end puts its next visit off by `5 * fib n`
seconds, up to 300, and is reported as the `n`-th as long as the counter holds such a number. A pass that did
not fail gets the visit that it wishes for, and one that found no control plane leaves no entry for its
key. -/
theorem delays_of_passes (history : List (EndedPass settings)) (p : EndedPass settings) :
    let retries := retriesAfter history
    let n := failures p.key history + 1
    let delay := Duration.ofSeconds (min 300 (5 * Nat.fib n))
    (p.isFailed = true → (retries.fail p.key).1 = (delay, .ofNat n) ∧
        (n < UInt32.size → (retries.fail p.key).1.2.toNat = n) ∧
        p.close retries = (.requeue delay, (retries.fail p.key).2)) ∧
      (p.isFailed = false → (p.close retries).1 = p.outcome.wish) ∧
      (p.FoundNone → (p.close retries).2.get? p.key = none) := by
  intro retries n delay
  obtain ⟨reported, -⟩ := Retries.fail_of_entry (entry_retriesAfter history p.key)
  refine ⟨fun failed => ⟨reported, fun small => ?_, ?_⟩, fun h => Retries.conclude_of_not_failed h ..,
    fun missing => ?_⟩
  · rw [reported]
    exact UInt32.toNat_ofNat_of_lt small
  · obtain ⟨cause, retry⟩ : ∃ cause, p.outcome.decision = .retryOnError cause := by
      unfold isFailed at failed
      cases d : p.outcome.decision with
      | retryOnError cause => exact ⟨cause, rfl⟩
      | _ => rw [d] at failed; cases failed
    rw [close, p.afterCalls_of_failed failed, retry]
    change (Action.requeue (retries.fail p.key).1.1, (retries.fail p.key).2) = _
    rw [reported]
  · rcases (visits_of_plays p.plays).forgets with ⟨drops, stops⟩ | ⟨-, present⟩
    · have dropped : (retries.afterCalls p.trace).get? p.key = none := by
        rw [Retries.afterCalls, drops]
        exact (Dict.get?_erase retries p.key p.key).trans (if_pos rfl)
      rw [close, stops]
      change ((retries.afterCalls p.trace).settle p.key).get? p.key = none
      rwa [Retries.settle, dropped]
    · exact absurd missing present

/-- A pass that could not look its control plane up. -/
def unreadable (visitor : Visitor) (e : Failure) : EndedPass settings :=
  ⟨visitor, [⟨.fetch visitor.namespaceName visitor.name, .error e⟩], .failed e, .call rfl _ (.pure _)⟩

/-- A pass that found no control plane. -/
def gone (visitor : Visitor) : EndedPass settings :=
  ⟨visitor, [⟨.fetch visitor.namespaceName visitor.name, .ok none⟩, ⟨.forget visitor.key, ()⟩], .stop,
    .call rfl _ (.call rfl _ (.pure _))⟩

/-- The failure of a lookup. -/
def lost : Failure := .cluster (.transport "connection reset")

/-- Three failures in the east and one in the west. -/
def outages : List (EndedPass .standard) :=
  [unreadable ⟨"edge", "east"⟩ lost, unreadable ⟨"edge", "west"⟩ lost, unreadable ⟨"edge", "east"⟩ lost,
    unreadable ⟨"edge", "east"⟩ lost]

/-- The next failure in the east is the fourth there and in the west the second. In the east it is visited
again after 15 seconds; if there is none any more, it is forgotten. -/
theorem delays_of_outages :
    ((retriesAfter outages).fail "edge/east").1 = (.ofSeconds 15, 4) ∧
      ((retriesAfter outages).fail "edge/east").1.2.toNat = 4 ∧
      ((retriesAfter outages).fail "edge/west").1 = (.ofSeconds 5, 2) ∧
      ((gone ⟨"edge", "east"⟩ : EndedPass .standard).close (retriesAfter outages)).1 = .awaitChange ∧
      ((gone ⟨"edge", "east"⟩ : EndedPass .standard).close (retriesAfter outages)).2.get? "edge/east" = none :=
  have east := delays_of_passes outages (unreadable ⟨"edge", "east"⟩ lost)
  have west := delays_of_passes outages (unreadable ⟨"edge", "west"⟩ lost)
  have missing := delays_of_passes outages (gone ⟨"edge", "east"⟩)
  ⟨(east.1 rfl).1, (east.1 rfl).2.1 (by decide), (west.1 rfl).1, missing.2.1 rfl,
    missing.2.2 (List.mem_cons_self ..)⟩

end EndedPass

end Reconcile

end EdgePlane
