import EdgePlane.Proofs.RetryDelay

/-!
# Sequences of delays

However delays are taken from a sequence and whenever it is started anew, the next delay is that multiple
of the least one that the Fibonacci number of its place gives, or the greatest delay if that is less. Only
one of the two numbers that a sequence remembers is capped when it is written; the other one is a number
that was capped before, so the sum of the two fits into a word.
-/

namespace EdgePlane

namespace Backoff

/-- What is done with a sequence of delays. -/
inductive Use
  | next
  | reset
  deriving DecidableEq, Repr

/-- The next delay in seconds, and the sequence behind it. -/
def next (b : Backoff) : Nat × Backoff := (b.current, b.advance)

/-- The sum that is computed on the way to the next delay but one. -/
def sum (b : Backoff) : Nat := b.previous + b.current

/-- The sequence after one use. -/
def use (b : Backoff) : Use → Backoff
  | .next => b.next.2
  | .reset => b.reset

/-- The sequence after several uses. -/
def afterAll (b : Backoff) (uses : List Use) : Backoff := uses.foldl use b

/-- How many delays were taken since the sequence was made or last started anew. -/
def taken (uses : List Use) : Nat := (uses.reverse.takeWhile (· = .next)).length

variable {least most : Nat}

theorem taken_append_singleton (uses : List Use) (u : Use) :
    taken (uses ++ [u]) = if u = .next then taken uses + 1 else 0 := by
  cases u <;> simp [taken]

/-- Without a new start each use takes one delay more. -/
theorem taken_append (uses : List Use) {more : List Use} (going : .reset ∉ more) :
    taken (uses ++ more) = taken uses + more.length := by
  induction more using List.reverseRecOn with
  | nil => simp
  | append_singleton more u ih =>
    have next : u = .next := by
      cases u with
      | next => rfl
      | reset => simp at going
    have before : .reset ∉ more := fun found => going (List.mem_append_left _ found)
    rw [← List.append_assoc, taken_append_singleton, if_pos next, ih before, List.length_append]
    rfl

theorem use_after (h : least ≤ most) (n : Nat) (u : Use) :
    (after least most n).use u = after least most (if u = .next then n + 1 else 0) := by
  cases u with
  | next => exact advance_after least most n
  | reset => exact reset_after h n

/-- What a sequence remembers is told by how many delays were taken since it was last started anew. -/
theorem afterAll_start (h : least ≤ most) (uses : List Use) :
    (start least most).afterAll uses = after least most (taken uses) := by
  induction uses using List.reverseRecOn with
  | nil => exact start_eq_after h
  | append_singleton uses u ih =>
    have step : (start least most).afterAll (uses ++ [u]) = ((start least most).afterAll uses).use u :=
      List.foldl_append
    rw [step, ih, use_after h, taken_append_singleton]

theorem afterAll_append (b : Backoff) (uses more : List Use) :
    (b.afterAll uses).afterAll more = b.afterAll (uses ++ more) := List.foldl_append.symm

/-- Delays do not get shorter along a sequence. -/
theorem next_after_mono {m n : Nat} (h : m ≤ n) :
    (after least most m).next.1 ≤ (after least most n).next.1 := by
  have grown : least * Nat.fib (m + 1) ≤ least * Nat.fib (n + 1) :=
    Nat.mul_le_mul_left least (Nat.fib_mono (Nat.succ_le_succ h))
  exact min_le_min_left most grown

theorem least_le_next_after (h : least ≤ most) (n : Nat) : least ≤ (after least most n).next.1 := by
  have positive : 0 < Nat.fib (n + 1) := Nat.fib_pos.2 n.succ_pos
  exact le_min h (Nat.le_mul_of_pos_right least positive)

theorem next_after_le_most (n : Nat) : (after least most n).next.1 ≤ most := min_le_left ..

theorem sum_after_le (n : Nat) : (after least most n).sum ≤ 2 * most := by
  have previous : (after least most n).previous ≤ most := min_le_left ..
  have current : (after least most n).current ≤ most := min_le_left ..
  rw [sum]
  omega

/-- After any uses of a sequence, the next delay is the `n`-th Fibonacci multiple of the least one up to the
greatest, where `n` counts the delays since the sequence was last started anew. So the delays lie between
the least and the greatest, do not get shorter until the next new start, and stay at the greatest one. The
sum that the sequence computes next is a number of 64 bits. -/
theorem next_eq_min_fib (ordered : least ≤ most) (fits : 2 * most < UInt64.size) (uses : List Use) :
    let b := (start least most).afterAll uses
    b.next.1 = min most (least * Nat.fib (taken uses + 1)) ∧
      least ≤ b.next.1 ∧ b.next.1 ≤ most ∧
      (∀ more, .reset ∉ more → b.next.1 ≤ (b.afterAll more).next.1 ∧
        (b.next.1 = most → (b.afterAll more).next.1 = most)) ∧
      b.sum < UInt64.size := by
  intro b
  have now : b = after least most (taken uses) := afterAll_start ordered uses
  have bounded (n : Nat) : (after least most n).next.1 ≤ most := next_after_le_most n
  have later {more : List Use} (going : .reset ∉ more) :
      b.afterAll more = after least most (taken uses + more.length) := by
    rw [afterAll_append, afterAll_start ordered, taken_append uses going]
  rw [now]
  refine ⟨rfl, least_le_next_after ordered _, bounded _, fun more going => ?_, ?_⟩
  · rw [← now, later going, now]
    have grown : (after least most (taken uses)).next.1 ≤ (after least most (taken uses + more.length)).next.1 :=
      next_after_mono (Nat.le_add_right ..)
    exact ⟨grown, fun capped => Nat.le_antisymm (bounded _) (capped.symm.le.trans grown)⟩
  · exact Nat.lt_of_le_of_lt (sum_after_le _) fits

/-- A sequence that is started anew after two delays, and reaches its greatest delay with the seventh. -/
theorem next_eq_min_fib_restarted :
    let uses : List Use := [.next, .next, .reset, .next, .next, .next, .next, .next, .next]
    1 ≤ 10 ∧ 2 * 10 < UInt64.size ∧ ((start 1 10).afterAll uses).next.1 = min 10 (1 * 13) ∧
      ((start 1 10).afterAll (uses ++ [.next, .next])).next.1 = 10 := by
  intro uses
  have ordered : 1 ≤ 10 := by decide
  obtain ⟨seventh, -, -, going, -⟩ := next_eq_min_fib ordered (by decide) uses
  refine ⟨by decide, by decide, seventh, ?_⟩
  rw [← afterAll_append]
  exact (going [.next, .next] (by decide)).2 seventh

end Backoff

end EdgePlane
