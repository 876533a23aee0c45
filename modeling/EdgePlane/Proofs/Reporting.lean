import EdgePlane.Proofs.Wakeup
import Mathlib.Data.List.Induction

/-!
# Failures of the cluster are reported

A part of a pass gives up at the first call that the cluster fails, and fails for the same reason. The
failures of all parts are merged into one in the order of the parts, whatever order they came in, so the
wording of each of them is found in what the pass reports.
-/

namespace EdgePlane

open Kubernetes Text

/-- Whether a call is answered by the cluster. -/
def Call.isAtCluster : Call → Bool
  | .get _ => true
  | .create _ => true
  | .apply _ => true
  | .restart _ _ => true
  | .fetch _ _ => true
  | .record _ _ => true
  | _ => false

/-- Why the cluster failed a call. -/
def Event.clusterFailure? : Event → Option Failure
  | ⟨.get _, .error e⟩ => some e
  | ⟨.create _, .error e⟩ => some e
  | ⟨.apply _, .error e⟩ => some e
  | ⟨.restart _ _, .error e⟩ => some e
  | ⟨.fetch _ _, .error e⟩ => some e
  | ⟨.record _ _, .error e⟩ => some e
  | _ => none

/-- The failures of the cluster in a trace, in their order. -/
def clusterFailures (t : List Event) : List Failure := t.filterMap (·.clusterFailure?)

@[simp] theorem clusterFailures_nil : clusterFailures [] = [] := rfl

@[simp] theorem clusterFailures_append (t u : List Event) :
    clusterFailures (t ++ u) = clusterFailures t ++ clusterFailures u := List.filterMap_append

@[simp] theorem clusterFailures_cons (e : Event) (t : List Event) :
    clusterFailures (e :: t) = e.clusterFailure?.toList ++ clusterFailures t := by
  cases h : e.clusterFailure? <;> simp [clusterFailures, h]

theorem mem_clusterFailures {t : List Event} {failure : Failure} :
    failure ∈ clusterFailures t ↔ ∃ e ∈ t, e.clusterFailure? = some failure := List.mem_filterMap

/-- The cluster fails only calls that it answers. -/
theorem clusterFailures_eq_nil {t : List Event} (h : ∀ e ∈ t, e.call.isAtCluster = false) :
    clusterFailures t = [] := by
  refine List.filterMap_eq_nil_iff.2 fun e he => ?_
  have away := h e he
  obtain ⟨c, r⟩ := e
  cases c <;> first | rfl | simp [Call.isAtCluster] at away

/-- `GivesUp t reported`: the cluster failed no call of `t`, or just the last one, and that failure is
reported. -/
def GivesUp (t : List Event) (reported : Option Failure) : Prop :=
  clusterFailures t = [] ∨ ∃ t₁ e failure, t = t₁ ++ [e] ∧ clusterFailures t₁ = [] ∧
    e.clusterFailure? = some failure ∧ reported = some failure

theorem GivesUp.of_unreported {t : List Event} (h : GivesUp t none) : clusterFailures t = [] := by
  rcases h with none | ⟨-, -, -, -, -, -, ⟨⟩⟩
  exact none

/-- What the cluster failed is reported. -/
theorem GivesUp.reported {t : List Event} {reported : Option Failure} (h : GivesUp t reported)
    {failure : Failure} (failed : failure ∈ clusterFailures t) : reported = some failure := by
  rcases h with none | ⟨t₁, e, cause, rfl, none, he, rfl⟩
  · rw [none] at failed
    cases failed
  · rw [clusterFailures_append, none] at failed
    obtain rfl : failure = cause := by simpa [clusterFailures, he] using failed
    rfl

/-- What comes before counts only for what the cluster failed of it. -/
theorem GivesUp.prepend {t u : List Event} {reported : Option Failure} (h : GivesUp u reported)
    (none : clusterFailures t = []) : GivesUp (t ++ u) reported := by
  rcases h with none' | ⟨v, e, failure, rfl, none', he, hreported⟩
  · exact .inl (by rw [clusterFailures_append, none, none']; rfl)
  · exact .inr ⟨t ++ v, e, failure, by simp, by rw [clusterFailures_append, none, none']; rfl, he,
      hreported⟩

/-- The failure that an attempt ended with. -/
def failureOf {α : Type} : Except Failure α → Option Failure
  | .ok _ => none
  | .error e => some e

namespace Attempt

variable {α β : Type} {x : Attempt α} {f : α → Attempt β}

/-- Whether an attempt gives up at the first failure of the cluster, and fails for the same reason. -/
structure IsCandid (x : Attempt α) : Prop where
  givesUp : ∀ {t : List Event} {r : Except Failure α}, x.run.Plays t r → GivesUp t (failureOf r)

namespace IsCandid

theorem bind (hx : x.IsCandid) (hf : ∀ a, (f a).IsCandid) : (x >>= f).IsCandid where
  givesUp := by
    intro t r plays
    rcases plays_bind plays with ⟨e, failed, rfl⟩ | ⟨t₁, a, t₂, rfl, yields, rest⟩
    · exact hx.givesUp failed
    · exact ((hf a).givesUp rest).prepend (hx.givesUp yields).of_unreported

/-- An attempt that leaves the cluster alone meets no failure of it. -/
theorem of_only (h : x.Only (·.isAtCluster = false)) : x.IsCandid :=
  ⟨fun plays => .inl (clusterFailures_eq_nil (Program.Plays.only plays h))⟩

theorem pure (a : α) : (Pure.pure a : Attempt α).IsCandid := of_only (.pure a)

theorem throw (e : Failure) : (MonadExcept.throw e : Attempt α).IsCandid := of_only (.throw e)

theorem ofExcept (r : Except Failure α) : (Attempt.ofExcept r).IsCandid := of_only (.ofExcept r)

/-- What is caught leaves the cluster alone, so nothing that the cluster failed is set aside. -/
theorem tryCatch {g : Failure → Attempt α} (hx : x.Only (·.isAtCluster = false))
    (hg : ∀ e, (g e).IsCandid) : (MonadExcept.tryCatch x g).IsCandid := by
  have none {t : List Event} {r : Except Failure α} (plays : x.run.Plays t r) :
      clusterFailures t = [] := clusterFailures_eq_nil (Program.Plays.only plays hx)
  refine ⟨fun {t r} plays => ?_⟩
  cases r with
  | ok a =>
    rcases yields_tryCatch.1 plays with yields | ⟨t₁, e, t₂, rfl, failed, rest⟩
    · exact .inl (none yields)
    · exact ((hg e).givesUp rest).prepend (none failed)
  | error e =>
    obtain ⟨t₁, e', t₂, rfl, failed, rest⟩ := fails_tryCatch.1 plays
    exact ((hg e').givesUp rest).prepend (none failed)

/-- A call of the cluster is the only one of its attempt. -/
theorem of_event {t : List Event} {e : Event} {r : Except Failure α} (trace : t = [e])
    (answer : e.clusterFailure? = failureOf r) : GivesUp t (failureOf r) := by
  subst trace
  cases reported : failureOf r with
  | none => exact .inl (by simp [clusterFailures, answer, reported])
  | some failure => exact .inr ⟨[], e, failure, rfl, rfl, answer.trans reported, rfl⟩

theorem get (a : Address) : (Attempt.get a).IsCandid :=
  ⟨fun {_ r} plays =>
    of_event ((Program.plays_perform (c := .get a) rfl).1 plays) (by cases r <;> rfl)⟩

theorem create (o : Object) : (Attempt.create o).IsCandid :=
  ⟨fun {_ r} plays =>
    of_event ((Program.plays_perform (c := .create o) rfl).1 plays) (by cases r <;> rfl)⟩

theorem apply (o : Object) : (Attempt.apply o).IsCandid :=
  ⟨fun {_ r} plays =>
    of_event ((Program.plays_perform (c := .apply o) rfl).1 plays) (by cases r <;> rfl)⟩

theorem restart (ns name : String) : (Attempt.restart ns name).IsCandid :=
  ⟨fun {_ r} plays =>
    of_event ((Program.plays_perform (c := .restart ns name) rfl).1 plays) (by cases r <;> rfl)⟩

theorem getSecret (ns name : String) : (Attempt.getSecret ns name).IsCandid :=
  .bind (get _) fun _ => .pure _

theorem discoverAddress (ns name : String) : (Attempt.discoverAddress ns name).IsCandid :=
  .bind (get _) fun _ => .pure _

theorem drawKey : Attempt.drawKey.IsCandid := of_only (.ofProgram (Program.Only.perform rfl))

theorem connect (url : String) : (Attempt.connect url).IsCandid := of_only (Program.Only.perform rfl)

theorem sync (owner : OwnerReference) (mode : SyncMode) (o : Object) :
    (sync owner mode o).IsCandid := by
  refine .bind (get _) fun found => ?_
  cases found with
  | none => exact .bind (create _) fun _ => .pure _
  | some old =>
    cases mode with
    | apply => exact .bind (apply _) fun _ => .pure _
    | createOnly => exact .pure _

end IsCandid

end Attempt

namespace Text

/-- A text occurs where it stands between two others. -/
theorem contains_append (before part after : String) :
    contains (before ++ (part ++ after)) part = true := by
  simpa [contains, String.toList_append] using
    occursIn_of_append before.toList part.toList after.toList

theorem contains_self (s : String) : contains s s = true := by
  simpa using contains_append "" s ""

/-- Each of the texts that are put together occurs in the whole. -/
theorem exists_intercalate (separator : String) {s : String} {texts : List String} (h : s ∈ texts) :
    ∃ before after, separator.intercalate texts = before ++ (s ++ after) := by
  induction texts with
  | nil => cases h
  | cons t rest ih =>
    by_cases last : rest = []
    · subst last
      obtain rfl := List.mem_singleton.1 h
      exact ⟨"", "", by simp⟩
    · rw [String.intercalate_cons_of_ne_nil last]
      rcases List.mem_cons.1 h with rfl | h
      · exact ⟨"", separator ++ separator.intercalate rest, by simp [String.append_assoc]⟩
      · obtain ⟨before, after, whole⟩ := ih h
        exact ⟨t ++ separator ++ before, after, by simp [whole, String.append_assoc]⟩

end Text

namespace Failure

/-- Failures as one: none, a single one as it is, and several with a line for each. -/
def combined : List Failure → Option Failure
  | [] => none
  | [e] => some e
  | es => some (.aggregated ("\n".intercalate (es.map message)))

theorem message_aggregated (text : String) : (aggregated text).message = text := rfl

theorem combined_of_two (a b : Failure) (es : List Failure) :
    combined (a :: b :: es) = some (.aggregated ("\n".intercalate ((a :: b :: es).map message))) := rfl

/-- The wording of each failure is found in that of all as one. -/
theorem contains_combined {es : List Failure} {e : Failure} (h : e ∈ es) :
    ∃ cause, combined es = some cause ∧ contains cause.message e.message := by
  match es with
  | [_] =>
    obtain rfl := List.mem_singleton.1 h
    exact ⟨e, rfl, contains_self _⟩
  | a :: b :: rest =>
    obtain ⟨before, after, whole⟩ :=
      exists_intercalate "\n" (List.mem_map_of_mem (f := message) h)
    refine ⟨_, combined_of_two a b rest, ?_⟩
    rw [message_aggregated, whole]
    exact contains_append ..

/-- One more failure comes last. -/
theorem mergeFailures_combined (es : List Failure) (r : Option Failure) :
    Outcome.mergeFailures (combined es) r = combined (es ++ r.toList) := by
  cases r with
  | none => cases h : combined es <;> simp [Outcome.mergeFailures, h]
  | some e =>
    match es with
    | [] => rfl
    | [a] =>
      simp [combined, Outcome.mergeFailures, String.intercalate_cons_cons]
    | a :: b :: rest =>
      have several : a :: b :: rest ++ [e] = a :: b :: (rest ++ [e]) := rfl
      rw [Option.toList_some, several, combined_of_two, combined_of_two, ← several, List.map_append,
        String.intercalate_append_of_ne_nil (by simp) (by simp), List.map_singleton,
        String.intercalate_singleton]
      rfl

end Failure

namespace Outcome

theorem failure_mergeAll (outcomes : List Outcome) :
    (mergeAll outcomes).failure = Failure.combined (outcomes.filterMap (·.failure)) := by
  induction outcomes using List.reverseRec with
  | nil => rfl
  | append_singleton os o ih =>
    have last : mergeAll (os ++ [o]) = (mergeAll os).merge o := List.foldl_append
    rw [last, merge, ih, Failure.mergeFailures_combined, List.filterMap_append]
    cases h : o.failure <;> simp [h]

end Outcome

namespace Target

theorem syncIdentity_isCandid (target : Target) (component : Component) :
    (target.syncIdentity component).IsCandid := by
  refine .bind (.sync ..) fun _ => ?_
  split
  · exact .bind (.sync ..) fun _ => .bind (.sync ..) fun _ => .pure _
  · exact .pure _

theorem syncService_isCandid (target : Target) (component : Component) :
    (target.syncService component).IsCandid := by
  unfold syncService
  split
  · exact .bind (.sync ..) fun _ => .pure _
  · exact .pure _

end Target

namespace Reconcile

open Attempt
open ControlPlane (Phase Condition)

variable {settings : Setup} {cp : ControlPlane} {ns name : String} {t : List Event} {o : Outcome}

/-- What a part of a pass reports if it gives up at the first failure of the cluster. -/
theorem givesUp_of_settle {x : Attempt Outcome} (h : x.IsCandid) (plays : (settle x).Plays t o) :
    GivesUp t o.failure := by
  rcases plays_settle.1 plays with yields | ⟨e, failed, rfl⟩
  · exact .inl (h.givesUp yields).of_unreported
  · exact h.givesUp failed

/-- A call about an account is not answered by the cluster. -/
theorem away_of_account {α : Type} (url : String) {x : Attempt α} (h : x.Only (·.isAccountAt url)) :
    x.Only (·.isAtCluster = false) := by
  refine h.mono fun c account => ?_
  cases c <;> first | rfl | simp [Call.isAccountAt] at account

theorem away_waitUntilAvailable (url : String) (limit : RetryLimit) :
    (Bootstrap.waitUntilAvailable url limit).Only (·.isAtCluster = false) := by
  unfold Bootstrap.waitUntilAvailable
  generalize limit.attempts = remaining
  induction remaining with
  | zero => exact .throw _
  | succ n ih =>
    refine .bind (.ofProgram (Program.Only.perform rfl)) fun r => ?_
    cases r with
    | ok status => exact .pure _
    | error e =>
      dsimp only
      split
      · split
        · exact .bind ⟨rfl, fun _ => trivial⟩ fun _ => ih
        · exact ih
      · exact .throw _

theorem routerAddress_isCandid (cp : ControlPlane) (ns : String) : (routerAddress cp ns).IsCandid := by
  unfold routerAddress
  dsimp only
  split
  · exact .discoverAddress ..
  · split
    · exact .throw _
    · exact .pure _

theorem router_givesUp (plays : (router settings cp).Plays t o) : GivesUp t o.failure := by
  refine givesUp_of_settle (.bind (.ofExcept _) fun target =>
    .bind (target.syncIdentity_isCandid _) fun _ => .bind (target.syncService_isCandid _) fun _ =>
      .bind (routerAddress_isCandid ..) fun address => ?_) plays
  cases address with
  | none => exact .pure _
  | some address =>
    refine .bind (.bind (.getSecret ..) fun found => ?_) fun ca => .bind ?_ fun _ =>
      .bind (.sync ..) fun _ => .pure _
    · cases found with
      | some secret => exact .ofExcept _
      | none => exact .bind .drawKey fun fresh => .bind (.sync ..) fun _ => .pure _
    · have leaf (name : String) : (syncLeaf target ca address name).IsCandid :=
        .bind (.ofExcept _) fun _ => .bind .drawKey fun _ => .bind (.sync ..) fun _ => .pure _
      exact .bind (leaf _) fun _ => .bind (leaf _) fun _ => .pure _

theorem portManager_givesUp (plays : (portManager settings cp).Plays t o) : GivesUp t o.failure :=
  givesUp_of_settle (.bind (.ofExcept _) fun target => .bind (target.syncIdentity_isCandid _) fun _ =>
    .bind (.sync ..) fun _ => .bind (.sync ..) fun _ => .pure _) plays

theorem verifyPullSecret_isCandid (ns name : String) : (verifyPullSecret ns name).IsCandid := by
  refine .bind (.getSecret ..) fun found => ?_
  cases found with
  | none => exact .throw _
  | some secret =>
    dsimp only
    split
    · exact .pure _
    · exact .throw _

theorem syncController_isCandid (settings : Setup) (target : Target) (cp : ControlPlane) :
    (syncController settings target cp).IsCandid := by
  refine .bind (target.syncIdentity_isCandid _) fun _ => .bind (.getSecret ..) fun found =>
    .bind (.sync ..) fun _ => .bind (target.syncService_isCandid _) fun _ => ?_
  dsimp only
  split
  · exact .bind (.sync ..) fun _ => .bind (.sync ..) fun _ => .pure _
  · exact .bind (.sync ..) fun _ => .pure _

theorem rotatePassword_isCandid (target : Target) (url : String) (user : ControlPlane.User) :
    (rotatePassword target url user).IsCandid := by
  refine .bind (.bind (.getSecret ..) fun found => ?_) fun previous =>
    .bind (.of_only (away_of_account url (rotatePassword_reach ..))) fun session =>
      .bind (.sync ..) fun _ => .bind (.get _) fun pods => ?_
  · cases found with
    | none => exact .throw _
    | some secret =>
      dsimp only
      split
      · exact .throw _
      · exact .pure _
  · split
    · exact .bind (.restart ..) fun _ => .pure _
    · exact .pure _

theorem openSession_isCandid (target : Target) (url : String) (user : ControlPlane.User) :
    (openSession target url user).IsCandid := by
  refine .tryCatch (away_of_account url (ensureUser_reach ..)) fun failure => ?_
  split
  · exact rotatePassword_isCandid ..
  · exact .throw _

/-- Only the check from outside is set aside when it fails, and it does not turn to the cluster. -/
theorem bootstrapController_isCandid (settings : Setup) (target : Target) (cp : ControlPlane) :
    (bootstrapController settings target cp).IsCandid := by
  refine .bind (.connect _) fun _ => .bind (.of_only (away_waitUntilAvailable ..)) fun _ =>
    .bind (openSession_isCandid ..) fun session => .bind (routerAddress_isCandid ..) fun address => ?_
  cases address with
  | none => exact .pure _
  | some host =>
    refine .bind (.of_only (viaApi_reach (Program.Only.perform rfl))) fun _ => ?_
    split
    · exact .pure _
    · refine .bind (.discoverAddress ..) fun external => ?_
      cases external with
      | none => exact .pure _
      | some address =>
        refine .tryCatch (.bind ?_ fun _ => .pure _) fun _ => .pure _
        exact .bind (Program.Only.perform rfl) fun _ => away_waitUntilAvailable ..

theorem controller_givesUp (plays : (controller settings cp).Plays t o) : GivesUp t o.failure := by
  have drive (target : Target) : (driveController settings target cp).IsCandid := by
    refine .bind (syncController_isCandid ..) fun result => ?_
    dsimp only
    split
    · exact .pure _
    · split
      · exact .bind (.restart ..) fun _ => bootstrapController_isCandid ..
      · exact bootstrapController_isCandid ..
  refine givesUp_of_settle (.bind (.ofExcept _) fun target => ?_) plays
  dsimp only
  split
  · exact .bind (verifyPullSecret_isCandid ..) fun _ => drive target
  · exact drive target

/-- Whether each part gives up at the first failure of the cluster. -/
structure Parts.GiveUp (p : Parts settings cp t) : Prop where
  router : GivesUp p.router p.routerOutcome.failure
  controller : GivesUp p.controller p.controllerOutcome.failure
  portManager : GivesUp p.portManager p.portManagerOutcome.failure

theorem Parts.giveUp (p : Parts settings cp t) : p.GiveUp where
  router := router_givesUp p.playsRouter
  controller := controller_givesUp p.playsController
  portManager := portManager_givesUp p.playsPortManager

/-- The failures of the parts in their order. -/
def Parts.failures (p : Parts settings cp t) : List Failure :=
  [p.routerOutcome, p.controllerOutcome, p.portManagerOutcome].filterMap (·.failure)

theorem Parts.failure_outcome (p : Parts settings cp t) :
    p.outcome.failure = Failure.combined p.failures := Outcome.failure_mergeAll _

/-- What the cluster failed is among the failures of the parts. -/
theorem Parts.mem_failures (p : Parts settings cp t) {failure : Failure}
    (failed : failure ∈ clusterFailures t) : failure ∈ p.failures := by
  obtain ⟨e, he, answer⟩ := mem_clusterFailures.1 failed
  have reported {u : List Event} {o : Outcome} (h : GivesUp u o.failure) (he : e ∈ u) :
      o.failure = some failure := h.reported (mem_clusterFailures.2 ⟨e, he, answer⟩)
  refine List.mem_filterMap.2 ?_
  rcases p.apart.mem_iff.1 he with he | he
  · exact ⟨p.routerOutcome, by simp, reported p.giveUp.router he⟩
  rcases p.othersApart.mem_iff.1 he with he | he
  · exact ⟨p.controllerOutcome, by simp, reported p.giveUp.controller he⟩
  · exact ⟨p.portManagerOutcome, by simp, reported p.giveUp.portManager he⟩

/-- Parts with a clean outcome have no failure. -/
theorem Parts.failures_of_clean (p : Parts settings cp t) (clean : p.outcome.isClean) :
    p.failures = [] := by
  have none {o : Outcome} (h : o.isClean = true) : o.failure = none := by
    simp only [Outcome.isClean, Bool.and_eq_true, Option.isNone_iff_eq_none] at h
    exact h.1.1
  simp only [p.isClean_outcome, Parts.isClean, Bool.and_eq_true] at clean
  simp [Parts.failures, none clean.1, none clean.2.1, none clean.2.2]

/-- How a visit reports failures: those of the cluster in wording, and those of its parts as one. -/
structure Reports (settings : Setup) (t : List Event) (o : Outcome) : Prop where
  /-- The wording of each failure of the cluster occurs in what is reported. -/
  worded : ∀ failure ∈ clusterFailures t,
    ∃ cause, o.failure = some cause ∧ contains cause.message failure.message
  /-- What is reported is a reason to try again. -/
  retried : ∀ cause, o.failure = some cause → o.terminal = false ∧ o.decision = .retryOnError cause
  /-- A visit that is bookkeeping only fails for what the cluster failed of it. Otherwise its parts have
  run to their ends, and what they failed for is reported as one. -/
  parts : ((∀ e ∈ t, e.call.isBookkeeping) ∧
      ∀ cause, o.failure = some cause → cause ∈ clusterFailures t) ∨
    ∃ (cp : ControlPlane) (before middle after : List Event) (p : Parts settings cp middle),
      t = before ++ (middle ++ after) ∧ (∀ e ∈ before ++ after, e.call.isBookkeeping) ∧ p.GiveUp ∧
        (p.failures ≠ [] → o.failure = Failure.combined p.failures)

theorem retried_of_not_terminal {cause : Failure} (h : o.failure = some cause)
    (visited : o.terminal = false) : o.terminal = false ∧ o.decision = .retryOnError cause := by
  refine ⟨visited, ?_⟩
  simp [Outcome.decision, visited, h]

/-- Entering the phase of deploying failed nothing. -/
theorem Deploys.clusterFailures {before : List Event} (h : Deploys cp before) :
    clusterFailures before = [] := by
  cases h <;> rfl

/-- A visit that is bookkeeping only reports what the cluster failed of it. -/
theorem reports_of_bookkept (told : clusterFailures t = o.failure.toList)
    (visited : ∀ cause, o.failure = some cause → o.terminal = false)
    (bookkept : ∀ e ∈ t, e.call.isBookkeeping) : Reports settings t o where
  worded failure failed := by
    rw [told, Option.mem_toList] at failed
    exact ⟨failure, failed, contains_self _⟩
  retried cause h := retried_of_not_terminal h (visited cause h)
  parts := .inl ⟨bookkept, fun cause h => by rwa [told, Option.mem_toList]⟩

theorem Visits.reports (h : Visits settings ns name t o) : Reports settings t o := by
  cases h with
  | unreadable e => exact reports_of_bookkept rfl (fun _ _ => rfl) (by simp [Call.isBookkeeping])
  | gone => exact reports_of_bookkept rfl (fun _ h => by cases h) (by simp [Call.isBookkeeping])
  | idle cp phase => exact reports_of_bookkept rfl (fun _ _ => rfl) (by simp [Call.isBookkeeping])
  | refused cp phase time e =>
    exact reports_of_bookkept rfl (fun _ _ => rfl) (by simp [Call.isBookkeeping])
  | pending cp before m entry p unclean =>
    refine ⟨fun failure failed => ?_, fun cause h => retried_of_not_terminal h p.not_terminal,
      .inr ⟨cp, ⟨.fetch ns name, .ok (some cp)⟩ :: before, m, [], p, by simp, ?_, p.giveUp,
        fun _ => p.failure_outcome⟩⟩
    · have inside : failure ∈ clusterFailures m := by
        simpa [Event.clusterFailure?, entry.clusterFailures] using failed
      rw [p.failure_outcome]
      exact Failure.contains_combined (p.mem_failures inside)
    · simpa [Call.isBookkeeping] using fun e he => (entry.bookkept e he).1
  | converged cp before m entry p clean time r =>
    have none := p.failures_of_clean clean
    have inside : clusterFailures m = [] := List.eq_nil_iff_forall_not_mem.2 fun failure h => by
      simpa [none] using p.mem_failures h
    refine ⟨fun failure failed => ?_, fun cause h => retried_of_not_terminal h ?_,
      .inr ⟨cp, ⟨.fetch ns name, .ok (some cp)⟩ :: before, m, [⟨.now, time⟩,
        ⟨.record cp [Condition.active Phase.ready.conditionType time], r⟩], p, by simp, ?_, p.giveUp,
        fun some => absurd none some⟩⟩
    · cases r with
      | ok u => simp [Event.clusterFailure?, entry.clusterFailures, inside] at failed
      | error e =>
        obtain rfl : failure = e := by
          simpa [Event.clusterFailure?, entry.clusterFailures, inside] using failed
        exact ⟨failure, rfl, contains_self _⟩
    · cases r <;> rfl
    · simp only [List.mem_cons, List.mem_append, List.not_mem_nil, or_false]
      rintro e ((rfl | he) | rfl | rfl)
      · rfl
      · exact (entry.bookkept e he).1
      · rfl
      · rfl

/-- Whoever answers the calls of a visit, however they fail and whichever part has its turn at which
call: each failure of the cluster is found in the wording of what the visit reports, and the control
plane is visited again for that reason. Unless the visit is bookkeeping only, all three parts run to their
ends, each gives up at the first failure of the cluster, and their failures are reported as one in the
order of the parts. A pass that is run is such a visit. -/
theorem reports_cluster_failures (settings : Setup) (ns name : String) :
    (∀ t o, Visits settings ns name t o → Reports settings t o) ∧
    ∀ {σ : Type} (answer : (c : Call) → σ → c.Reply × σ) (s : σ),
      Reports settings ((dispatch settings ns name).trace answer s)
        ((dispatch settings ns name).run answer s).1 :=
  ⟨fun _ _ visit => visit.reports, fun answer s =>
    (visits_of_plays (Program.plays_trace answer (dispatch settings ns name) s)).reports⟩

/-- The failures of the visit are reported in the order of the parts, not in the one that they came in. -/
theorem reports_backwards :
    Reports .standard backwards backwardsParts.outcome ∧
      clusterFailures backwards =
        [outOfReach PortManager.name, outOfReach Controller.name, outOfReach Router.name] ∧
      backwardsParts.outcome.failure =
        some (.aggregated ("\n".intercalate [(outOfReach Router.name).message,
          (outOfReach Controller.name).message, (outOfReach PortManager.name).message])) :=
  ⟨(reports_cluster_failures .standard "ns" "ecn").1 backwards _ visits_backwards, rfl, by decide⟩

end Reconcile

end EdgePlane
