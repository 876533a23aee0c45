import EdgePlane.Bootstrap
import Mathlib.Data.List.Basic

/-!
# Waiting until the interface serves

How often the status is asked for and how long is slept in between, whatever the answers are. Unlike in a
trace, sleeps are kept here, so that both can be counted.
-/

namespace EdgePlane

open Management

/-- Whether a call asks for the status. -/
def Call.isStatus : Call → Bool
  | .status _ => true
  | _ => false

/-- How long a call lets pass. -/
def Call.slept? : Call → Option Duration
  | .sleep d => some d
  | _ => none

namespace Bootstrap

/-- What is answered: for the status a sequence that is given in advance, and for all other calls anything
that depends on the calls before. -/
structure Script where
  statuses : Nat → Except ApiError ControllerStatus
  others : List Call → (c : Call) → c.Reply

/-- The answer to a call after other calls, and all calls so far. -/
def Script.answer (s : Script) : (c : Call) → List Call → c.Reply × List Call
  | .status url, calls => (s.statuses (calls.countP Call.isStatus), calls ++ [.status url])
  | c, calls => (s.others calls c, calls ++ [c])

/-- Whether an answer says that nothing serves yet. -/
def isRefusal : Except ApiError ControllerStatus → Bool
  | .ok _ => false
  | .error e => e.isRefused

/-- What waiting comes to when it ends with an answer. -/
def verdict : Except ApiError ControllerStatus → Except Failure Unit
  | .ok _ => .ok ()
  | .error e => .error (.api e)

/-- The status asked for `n` times, with a sleep between each time and the next. -/
def asks (url : String) (interval : Duration) (n : Nat) : List Call :=
  (List.replicate n (.status url)).intersperse (.sleep interval)

variable {url : String} {interval : Duration} {limit : RetryLimit} {s : Script} {calls : List Call}

@[simp] theorem asks_one : asks url interval 1 = [.status url] := rfl

theorem asks_add_two (n : Nat) :
    asks url interval (n + 2) = .status url :: .sleep interval :: asks url interval (n + 1) := rfl

theorem countP_asks (n : Nat) : (asks url interval n).countP Call.isStatus = n := by
  induction n with
  | zero => rfl
  | succ n ih =>
    cases n with
    | zero => rfl
    | succ n => rw [asks_add_two, List.countP_cons_of_pos rfl, List.countP_cons_of_neg Bool.false_ne_true, ih]

theorem slept_asks (n : Nat) :
    (asks url interval n).filterMap Call.slept? = List.replicate (n - 1) interval := by
  induction n with
  | zero => rfl
  | succ n ih =>
    cases n with
    | zero => rfl
    | succ n =>
      have first : Call.slept? (.sleep interval) = some interval := rfl
      rw [asks_add_two, List.filterMap_cons_none rfl, List.filterMap_cons_some first, ih]
      rfl

/-- The last call asks for the status. -/
theorem getLast?_asks (n : Nat) : (asks url interval (n + 1)).getLast? = some (.status url) := by
  induction n with
  | zero => rfl
  | succ n ih => rw [asks_add_two, List.getLast?_cons_cons, List.getLast?_cons, ih]; rfl

/-- An attempt is one more time the status is asked for, and the sleep after it is none. -/
theorem countP_attempt (calls : List Call) :
    (calls ++ [Call.status url] ++ [Call.sleep interval]).countP Call.isStatus =
      calls.countP Call.isStatus + 1 := by
  rw [List.countP_append, List.countP_append]
  rfl

/-- One attempt, and what follows from its answer. -/
theorem run_poll_succ (s : Script) (limit : RetryLimit) (remaining : Nat) (calls : List Call) :
    (poll url limit (remaining + 1)).run.run s.answer calls =
      if isRefusal (s.statuses (calls.countP Call.isStatus)) then
        if remaining = 0 then (.error (unavailable url limit.attempts), calls ++ [.status url])
        else (poll url limit remaining).run.run s.answer (calls ++ [.status url] ++ [.sleep limit.interval])
      else (verdict (s.statuses (calls.countP Call.isStatus)), calls ++ [.status url]) := by
  have asked : (poll url limit (remaining + 1)).run.run s.answer calls =
      Program.run s.answer
        (match s.statuses (calls.countP Call.isStatus) with
          | .ok _ => (pure () : Attempt Unit)
          | .error e =>
            if e.isRefused then do
              if remaining ≠ 0 then Attempt.sleep limit.interval
              poll url limit remaining
            else throw (Failure.api e)).run
        (calls ++ [.status url]) := rfl
  rw [asked]
  cases s.statuses (calls.countP Call.isStatus) with
  | ok status => rfl
  | error e =>
    by_cases refused : e.isRefused = true
    · rw [if_pos (show isRefusal (.error e) = true from refused)]
      dsimp only
      rw [if_pos refused]
      cases remaining with
      | zero => rfl
      | succ n => rfl
    · rw [if_neg (show ¬ isRefusal (.error e) = true from refused)]
      dsimp only
      rw [if_neg refused]
      rfl

variable (url s limit)

/-- With all answers left to be refusals, every attempt that is left is made. -/
theorem run_poll_of_refusals (remaining : Nat) (calls : List Call)
    (refused : ∀ i < remaining, isRefusal (s.statuses (calls.countP Call.isStatus + i)) = true) :
    (poll url limit remaining).run.run s.answer calls =
      (.error (unavailable url limit.attempts), calls ++ asks url limit.interval remaining) := by
  induction remaining generalizing calls with
  | zero => exact congrArg _ (List.append_nil calls).symm
  | succ n ih =>
    have first : isRefusal (s.statuses (calls.countP Call.isStatus)) = true := refused 0 n.succ_pos
    rw [run_poll_succ, if_pos first]
    cases n with
    | zero => rfl
    | succ n =>
      rw [if_neg n.succ_ne_zero, ih, asks_add_two]
      · simp
      · intro i hi
        have later := refused (i + 1) (by omega)
        rw [countP_attempt]
        rwa [Nat.add_assoc, Nat.add_comm 1 i]

/-- The first answer that is no refusal ends the attempts. -/
theorem run_poll_of_answer {r remaining : Nat} (calls : List Call) (within : r < remaining)
    (refused : ∀ i < r, isRefusal (s.statuses (calls.countP Call.isStatus + i)) = true)
    (answered : isRefusal (s.statuses (calls.countP Call.isStatus + r)) = false) :
    (poll url limit remaining).run.run s.answer calls =
      (verdict (s.statuses (calls.countP Call.isStatus + r)), calls ++ asks url limit.interval (r + 1)) := by
  induction r generalizing remaining calls with
  | zero =>
    obtain ⟨n, rfl⟩ : ∃ n, remaining = n + 1 := ⟨remaining - 1, by omega⟩
    rw [Nat.add_zero] at answered
    rw [run_poll_succ, if_neg (Bool.eq_false_iff.1 answered)]
    rfl
  | succ r ih =>
    obtain ⟨n, rfl⟩ : ∃ n, remaining = n + 2 := ⟨remaining - 2, by omega⟩
    have first : isRefusal (s.statuses (calls.countP Call.isStatus)) = true := refused 0 r.succ_pos
    have next (i : Nat) : calls.countP Call.isStatus + 1 + i = calls.countP Call.isStatus + (i + 1) := by
      omega
    rw [run_poll_succ, if_pos first, if_neg n.succ_ne_zero, ih, countP_attempt, next, asks_add_two]
    · simp
    · omega
    · intro i hi
      rw [countP_attempt, next]
      exact refused (i + 1) (by omega)
    · rwa [countP_attempt, next]

/-- The calls of a wait that asked `n` times. -/
structure Polled (url : String) (interval : Duration) (n : Nat) (calls : List Call) : Prop where
  order : calls = asks url interval n
  asked : calls.countP Call.isStatus = n
  slept : calls.filterMap Call.slept? = List.replicate (n - 1) interval
  last : ∀ d, calls.getLast? ≠ some (.sleep d)

theorem polled_asks (n : Nat) : Polled url interval n (asks url interval n) where
  order := rfl
  asked := countP_asks n
  slept := slept_asks n
  last d := by
    cases n with
    | zero => exact nofun
    | succ n =>
      rw [getLast?_asks]
      intro same
      cases same

/-- Waiting asks once for each refusal and once more, and gives back the first answer that is no refusal.
When all attempts were refused it names the interface and their number. -/
theorem waitUntilAvailable_exact (s : Script) (url : String) (limit : RetryLimit) :
    let run := (waitUntilAvailable url limit).run.run s.answer []
    (∀ r < limit.attempts, (∀ i < r, isRefusal (s.statuses i) = true) →
      isRefusal (s.statuses r) = false →
      run.1 = verdict (s.statuses r) ∧ Polled url limit.interval (r + 1) run.2) ∧
    ((∀ i < limit.attempts, isRefusal (s.statuses i) = true) →
      run.1 = .error (.timeout
          (url ++ " did not become available after " ++ Text.decimal limit.attempts ++ " attempts")) ∧
      Polled url limit.interval limit.attempts run.2) := by
  intro run
  have none_yet (i : Nat) : ([] : List Call).countP Call.isStatus + i = i := Nat.zero_add i
  constructor
  · intro r within refused answered
    have ended : run = (verdict (s.statuses r), asks url limit.interval (r + 1)) := by
      have := run_poll_of_answer url limit s [] within
        (by intro i hi; rw [none_yet]; exact refused i hi) (by rwa [none_yet])
      rwa [none_yet] at this
    rw [ended]
    exact ⟨rfl, polled_asks url (r + 1)⟩
  · intro refused
    have ended : run = (.error (unavailable url limit.attempts), asks url limit.interval limit.attempts) :=
      run_poll_of_refusals url limit s limit.attempts []
        (by intro i hi; rw [none_yet]; exact refused i hi)
    rw [ended]
    exact ⟨rfl, polled_asks url limit.attempts⟩

/-- An interface that refuses `n` connections and then answers with an error. -/
def Script.starting (n : Nat) : Script where
  statuses i := .error (if i < n then .refused "starting" else .status 500 "broken")
  others
    | _, .get _ | _, .create _ | _, .apply _ | _, .restart _ _ | _, .fetch _ _ | _, .record _ _
    | _, .connect _ => .error (.timeout "no cluster")
    | _, .status _ | _, .signUp _ _ | _, .logIn _ _ | _, .changePassword _ _ _ | _, .putRouter _ _ _ =>
      .error (.transport false "lost")
    | _, .sleep _ => true
    | _, .now => default
    | _, .drawKey => default
    | _, .forget _ => ()

/-- Of three attempts the last one still gets its error through, and a fourth one would be needed for a
controller that starts more slowly. -/
theorem waitUntilAvailable_starting :
    let url := "http://controller-edge.example"
    let limit : RetryLimit := ⟨3, .ofSeconds 1⟩
    let run (n : Nat) := (waitUntilAvailable url limit).run.run (Script.starting n).answer []
    ((run 2).1 = .error (.api (.status 500 "broken")) ∧ Polled url limit.interval 3 (run 2).2) ∧
    ((run 3).1 =
        .error (.timeout "http://controller-edge.example did not become available after 3 attempts") ∧
      Polled url limit.interval 3 (run 3).2) := by
  intro url limit run
  have message : url ++ " did not become available after " ++ Text.decimal limit.attempts ++ " attempts" =
      "http://controller-edge.example did not become available after 3 attempts" := by
    decide +kernel
  have early (n : Nat) (i : Nat) (hi : i < n) : isRefusal ((Script.starting n).statuses i) = true := by
    simp [Script.starting, hi, isRefusal, ApiError.isRefused]
  constructor
  · exact (waitUntilAvailable_exact (.starting 2) url limit).1 2 (by decide) (early 2) rfl
  · have refused := (waitUntilAvailable_exact (.starting 3) url limit).2 (early 3)
    rwa [message] at refused

end Bootstrap

end EdgePlane
