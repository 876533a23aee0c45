import EdgePlane.Proofs.Reporting
import Mathlib.Order.Bounds.Defs

/-!
# Merging reports

Several reports become one however their merging is bracketed. What the joined report says is read off
all of them at once, so the order of the reports shows only in the order of the lines of its failure. A
single report is left as it is, with a delay that nobody asks for, and the first merge drops that delay.
-/

namespace EdgePlane

namespace Duration

theorem eq_of_le_of_le {d e : Duration} (le : d ≤ e) (ge : e ≤ d) : d = e := by
  obtain ⟨m⟩ := d
  obtain ⟨n⟩ := e
  have le' : m ≤ n := le
  have ge' : n ≤ m := ge
  congr 1
  omega

theorem le_refl (d : Duration) : d ≤ d := Nat.le_refl d.nanoseconds

theorem le_longer_left (d e : Duration) : d ≤ d.longer e := Nat.le_max_left d.nanoseconds e.nanoseconds

theorem le_longer_right (d e : Duration) : e ≤ d.longer e := Nat.le_max_right d.nanoseconds e.nanoseconds

theorem le_trans {a b c : Duration} (ab : a ≤ b) (bc : b ≤ c) : a ≤ c := Nat.le_trans ab bc

theorem longer_eq_or (d e : Duration) : d.longer e = d ∨ d.longer e = e := by
  obtain ⟨m⟩ := d
  obtain ⟨n⟩ := e
  simp only [longer, Duration.mk.injEq]
  omega

end Duration

theorem Failure.combined_eq_none {es : List Failure} : combined es = none ↔ es = [] := by
  match es with
  | [] => exact iff_of_true rfl rfl
  | [_] => exact ⟨nofun, nofun⟩
  | _ :: _ :: _ => exact ⟨nofun, nofun⟩

/-- Two lists of failures become one failure in one step or in two. -/
theorem Failure.mergeFailures_combined_combined (es fs : List Failure) :
    Outcome.mergeFailures (combined es) (combined fs) = combined (es ++ fs) := by
  match fs with
  | [] =>
    rw [List.append_nil]
    exact mergeFailures_combined es none |>.trans (by rw [Option.toList_none, List.append_nil])
  | [e] => exact mergeFailures_combined es (some e)
  | a :: b :: rest =>
    match es with
    | [] => rfl
    | [e] =>
      have lines : "\n".intercalate ((e :: a :: b :: rest).map message) =
          e.message ++ "\n" ++ "\n".intercalate ((a :: b :: rest).map message) :=
        String.intercalate_cons_cons
      have several : [e] ++ a :: b :: rest = e :: a :: b :: rest := rfl
      rw [several, combined_of_two, combined_of_two, lines]
      rfl
    | c :: d :: others =>
      have lines : "\n".intercalate ((c :: d :: others).map message ++ (a :: b :: rest).map message) =
          "\n".intercalate ((c :: d :: others).map message) ++ "\n" ++
            "\n".intercalate ((a :: b :: rest).map message) :=
        String.intercalate_append_of_ne_nil (by simp) (by simp)
      have several : c :: d :: others ++ a :: b :: rest = c :: d :: (others ++ a :: b :: rest) := rfl
      rw [several, combined_of_two, combined_of_two, combined_of_two, ← several, List.map_append, lines]
      rfl

namespace Outcome

/-- The delays that are asked for. -/
def delays (os : List Outcome) : Set Duration := {d | ∃ o ∈ os, o.requeue = true ∧ o.requeueAfter = d}

theorem delays_append {os ps : List Outcome} {d : Duration} :
    d ∈ delays (os ++ ps) ↔ d ∈ delays os ∨ d ∈ delays ps := by
  constructor
  · rintro ⟨o, found, asks⟩
    rcases List.mem_append.1 found with left | right
    · exact .inl ⟨o, left, asks⟩
    · exact .inr ⟨o, right, asks⟩
  · rintro (⟨o, left, asks⟩ | ⟨o, right, asks⟩)
    · exact ⟨o, List.mem_append_left ps left, asks⟩
    · exact ⟨o, List.mem_append_right os right, asks⟩

/-- A report says what others say together, whatever its delay if nobody asks for one. -/
structure Speaks (os : List Outcome) (o : Outcome) : Prop where
  failure : o.failure = Failure.combined (os.filterMap (·.failure))
  terminal : o.terminal = true ↔ ∃ report ∈ os, report.terminal = true
  requeue : o.requeue = true ↔ ∃ report ∈ os, report.requeue = true
  longest : o.requeue = true → IsGreatest (delays os) o.requeueAfter

/-- A report joins others: its failure is theirs as one, it stops if one of them does, it wishes to come
again if one of them does, and then after the longest delay that they ask for. -/
structure Joins (os : List Outcome) (o : Outcome) : Prop extends Speaks os o where
  idle : o.requeue = false → o.requeueAfter = .zero

theorem speaks_singleton (o : Outcome) : Speaks [o] o where
  failure := by cases h : o.failure <;> simp [Failure.combined, h]
  terminal := by simp
  requeue := by simp
  longest := by
    intro asked
    refine ⟨⟨o, by simp, asked, rfl⟩, ?_⟩
    rintro d ⟨p, found, -, rfl⟩
    obtain rfl := List.mem_singleton.1 found
    exact Duration.le_refl _

theorem joins_nil : Joins [] proceed where
  failure := rfl
  terminal := by simp [proceed]
  requeue := by simp [proceed]
  longest := nofun
  idle := fun _ => rfl

theorem Speaks.not_asked {os : List Outcome} {o : Outcome} (h : Speaks os o) (idle : o.requeue = false)
    (d : Duration) : d ∉ delays os := by
  rintro ⟨p, found, asks, -⟩
  have asked : o.requeue = true := h.requeue.2 ⟨p, found, asks⟩
  rw [idle] at asked
  cases asked

/-- The delay of a merged report is the longest of those that either side asks for. -/
theorem isGreatest_mergeDelays {os ps : List Outcome} {a b : Outcome} (ha : Speaks os a)
    (hb : Speaks ps b) (asked : a.requeue = true ∨ b.requeue = true) :
    IsGreatest (delays (os ++ ps)) (mergeDelays a b) := by
  cases left : a.requeue with
  | false =>
    have right : b.requeue = true := by simpa [left] using asked
    have greatest := hb.longest right
    simp only [mergeDelays, left, right]
    refine ⟨delays_append.2 (.inr greatest.1), ?_⟩
    intro d found
    rcases delays_append.1 found with found | found
    · exact absurd found (ha.not_asked left d)
    · exact greatest.2 found
  | true =>
    have leftmost := ha.longest left
    cases right : b.requeue with
    | false =>
      simp only [mergeDelays, left, right]
      refine ⟨delays_append.2 (.inl leftmost.1), ?_⟩
      intro d found
      rcases delays_append.1 found with found | found
      · exact leftmost.2 found
      · exact absurd found (hb.not_asked right d)
    | true =>
      have rightmost := hb.longest right
      simp only [mergeDelays, left, right]
      constructor
      · rcases Duration.longer_eq_or a.requeueAfter b.requeueAfter with longer | longer
        · rw [longer]
          exact delays_append.2 (.inl leftmost.1)
        · rw [longer]
          exact delays_append.2 (.inr rightmost.1)
      · intro d found
        rcases delays_append.1 found with found | found
        · exact Duration.le_trans (leftmost.2 found) (Duration.le_longer_left ..)
        · exact Duration.le_trans (rightmost.2 found) (Duration.le_longer_right ..)

/-- Merging joins what either side says. -/
theorem Speaks.merge {os ps : List Outcome} {a b : Outcome} (ha : Speaks os a) (hb : Speaks ps b) :
    Joins (os ++ ps) (a.merge b) where
  failure := by
    rw [List.filterMap_append, ← Failure.mergeFailures_combined_combined, ← ha.failure, ← hb.failure]
    rfl
  terminal := by
    have either : (a.merge b).terminal = (a.terminal || b.terminal) := rfl
    rw [either, Bool.or_eq_true, ha.terminal, hb.terminal]
    simp only [List.mem_append, or_and_right, exists_or]
  requeue := by
    have either : (a.merge b).requeue = (a.requeue || b.requeue) := rfl
    rw [either, Bool.or_eq_true, ha.requeue, hb.requeue]
    simp only [List.mem_append, or_and_right, exists_or]
  longest := fun asked => isGreatest_mergeDelays ha hb (Bool.or_eq_true .. ▸ asked)
  idle := by
    intro idle
    have both : a.requeue = false ∧ b.requeue = false := Bool.or_eq_false_iff.1 idle
    show mergeDelays a b = .zero
    simp [mergeDelays, both]

theorem joins_mergeAll (os : List Outcome) : Joins os (mergeAll os) := by
  induction os using List.reverseRec with
  | nil => exact joins_nil
  | append_singleton os o ih =>
    have last : mergeAll (os ++ [o]) = (mergeAll os).merge o := List.foldl_append
    rw [last]
    exact ih.merge (speaks_singleton o)

/-- Reports that join the same others in another order differ only in how the failures are ordered. -/
theorem Joins.perm {os ps : List Outcome} {a b : Outcome} (ha : Joins os a) (hb : Joins ps b)
    (reordered : os.Perm ps) :
    a = { b with failure := Failure.combined (os.filterMap (·.failure)) } := by
  have terminal : a.terminal = b.terminal := by
    rw [Bool.eq_iff_iff, ha.terminal, hb.terminal]
    simp only [reordered.mem_iff]
  have requeue : a.requeue = b.requeue := by
    rw [Bool.eq_iff_iff, ha.requeue, hb.requeue]
    simp only [reordered.mem_iff]
  have asked : delays os = delays ps := by simp only [delays, reordered.mem_iff]
  have requeueAfter : a.requeueAfter = b.requeueAfter := by
    cases wish : a.requeue with
    | false => rw [ha.idle wish, hb.idle (requeue ▸ wish)]
    | true =>
      have ga := ha.longest wish
      have gb := hb.longest (requeue ▸ wish)
      rw [asked] at ga
      exact Duration.eq_of_le_of_le (gb.2 ga.1) (ga.2 gb.1)
  have failure := ha.failure
  obtain ⟨failureA, terminalA, requeueA, delayA⟩ := a
  simp only at failure terminal requeue requeueAfter
  rw [failure, terminal, requeue, requeueAfter]

/-- What a list of reports determines of the report that joins them is the whole of it. -/
theorem Joins.unique {os : List Outcome} {a b : Outcome} (ha : Joins os a) (hb : Joins os b) : a = b := by
  have same := ha.perm hb (.refl os)
  rw [← hb.failure] at same
  exact same

theorem Speaks.isClean_iff {os : List Outcome} {o : Outcome} (h : Speaks os o) :
    o.isClean = true ↔ ∀ report ∈ os, report.isClean = true := by
  have failure : o.failure = none ↔ ∀ report ∈ os, report.failure = none := by
    rw [h.failure, Failure.combined_eq_none, List.filterMap_eq_nil_iff]
  have terminal : o.terminal = false ↔ ∀ report ∈ os, report.terminal = false := by
    rw [← Bool.not_eq_true, h.terminal]
    simp
  have requeue : o.requeue = false ↔ ∀ report ∈ os, report.requeue = false := by
    rw [← Bool.not_eq_true, h.requeue]
    simp
  simp only [isClean, Bool.and_eq_true, Option.isNone_iff_eq_none, Bool.not_eq_true', failure, terminal,
    requeue]
  constructor
  · rintro ⟨⟨f, t⟩, r⟩ p hp
    exact ⟨⟨f p hp, t p hp⟩, r p hp⟩
  · intro all
    exact ⟨⟨fun p hp => (all p hp).1.1, fun p hp => (all p hp).1.2⟩, fun p hp => (all p hp).2⟩

theorem Speaks.stops_iff {os : List Outcome} {o : Outcome} (h : Speaks os o) :
    o.decision = .stop ↔
      (∃ report ∈ os, report.terminal = true) ∨ ∀ report ∈ os, report.isClean = true := by
  rw [decision_eq_stop_iff, h.terminal, h.isClean_iff]

end Outcome

open Outcome

/-- A way of bracketing the merging of reports that stand in order. -/
inductive Bracketing
  | report (o : Outcome)
  | join (left right : Bracketing)

namespace Bracketing

/-- The reports that are merged, in their order. -/
def reports : Bracketing → List Outcome
  | report o => [o]
  | join left right => left.reports ++ right.reports

/-- What the reports come to when they are merged as bracketed. -/
def merged : Bracketing → Outcome
  | report o => o
  | join left right => left.merged.merge right.merged

theorem length_reports_pos (b : Bracketing) : 0 < b.reports.length := by
  induction b with
  | report o => exact Nat.one_pos
  | join left right ihl ihr =>
    rw [reports, List.length_append]
    omega

theorem two_le_length_join (left right : Bracketing) : 2 ≤ (join left right).reports.length := by
  have l := left.length_reports_pos
  have r := right.length_reports_pos
  rw [reports, List.length_append]
  omega

theorem speaks_merged (b : Bracketing) : Speaks b.reports b.merged := by
  induction b with
  | report o => exact speaks_singleton o
  | join left right ihl ihr => exact (ihl.merge ihr).toSpeaks

theorem joins_join (left right : Bracketing) :
    Joins (join left right).reports (join left right).merged :=
  left.speaks_merged.merge right.speaks_merged

theorem joins_merged {b : Bracketing} (several : 2 ≤ b.reports.length) : Joins b.reports b.merged := by
  cases b with
  | report o =>
    have single : (report o).reports.length = 1 := rfl
    omega
  | join left right => exact joins_join left right

/-- Two bracketings of the same reports in whatever order differ only in how the failures are ordered. -/
theorem merged_perm {b c : Bracketing} (reordered : b.reports.Perm c.reports) :
    b.merged = { c.merged with failure := Failure.combined (b.reports.filterMap (·.failure)) } := by
  have length := reordered.length_eq
  cases b with
  | report o =>
    cases c with
    | report p =>
      obtain rfl : p = o := List.singleton_perm_singleton.1 reordered.symm
      have failure := (report p).speaks_merged.failure
      rw [← failure]
    | join left right =>
      have several := two_le_length_join left right
      have single : (report o).reports.length = 1 := rfl
      omega
  | join left right =>
    have several := two_le_length_join left right
    exact (joins_join left right).perm (joins_merged (length ▸ several)) reordered

theorem merged_eq_of_reports_eq {b c : Bracketing} (same : b.reports = c.reports) :
    b.merged = c.merged := by
  have alike := merged_perm (List.Perm.of_eq same)
  rw [same, ← c.speaks_merged.failure] at alike
  exact alike

end Bracketing

/-- Merging reports is one operation on the list of them. However it is bracketed the result is the same;
from two reports on, and for the merging of all from the first on, it joins them; their order shows only in
the order of the failures; it is clean if all of them are, and ends the visits if that is so or one of them
ends them. -/
theorem merge_laws :
    (∀ b c : Bracketing, b.reports = c.reports → b.merged = c.merged) ∧
    (∀ b : Bracketing, 2 ≤ b.reports.length → Joins b.reports b.merged) ∧
    (∀ os, Joins os (mergeAll os)) ∧
    (∀ b c : Bracketing, b.reports.Perm c.reports →
      b.merged = { c.merged with failure := Failure.combined (b.reports.filterMap (·.failure)) }) ∧
    (∀ os ps, os.Perm ps →
      mergeAll os = { mergeAll ps with failure := Failure.combined (os.filterMap (·.failure)) }) ∧
    (∀ b : Bracketing, b.merged.isClean = true ↔ ∀ o ∈ b.reports, o.isClean = true) ∧
    (∀ os, (mergeAll os).isClean = true ↔ ∀ o ∈ os, o.isClean = true) ∧
    (∀ b : Bracketing, b.merged.decision = .stop ↔
      (∃ o ∈ b.reports, o.terminal = true) ∨ ∀ o ∈ b.reports, o.isClean = true) ∧
    (∀ os, (mergeAll os).decision = .stop ↔
      (∃ o ∈ os, o.terminal = true) ∨ ∀ o ∈ os, o.isClean = true) := by
  refine ⟨?_, ?_, ?_, ?_, ?_, ?_, ?_, ?_, ?_⟩
  · intro b c same
    exact Bracketing.merged_eq_of_reports_eq same
  · intro b several
    exact Bracketing.joins_merged several
  · exact joins_mergeAll
  · intro b c reordered
    exact Bracketing.merged_perm reordered
  · intro os ps reordered
    exact (joins_mergeAll os).perm (joins_mergeAll ps) reordered
  · intro b
    exact b.speaks_merged.isClean_iff
  · intro os
    exact (joins_mergeAll os).isClean_iff
  · intro b
    exact b.speaks_merged.stops_iff
  · intro os
    exact (joins_mergeAll os).stops_iff

/-- A delay that nobody asks for, a failure that is several already, and an end together with a failure. -/
def rawReports : List Outcome :=
  [⟨none, false, false, ⟨9⟩⟩, ⟨some (.aggregated "a\nb"), true, false, ⟨7⟩⟩,
    ⟨some (.timeout "late"), false, true, ⟨5⟩⟩]

theorem merged_of_rawReports :
    Joins rawReports ⟨some (.aggregated "a\nb\nTimed out: late"), true, true, ⟨5⟩⟩ := by
  have joins := merge_laws.2.2.1 rawReports
  have whole : mergeAll rawReports = ⟨some (.aggregated "a\nb\nTimed out: late"), true, true, ⟨5⟩⟩ := by
    decide
  rwa [whole] at joins

end EdgePlane
