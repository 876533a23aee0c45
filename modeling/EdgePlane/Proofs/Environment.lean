import EdgePlane.Dict
import EdgePlane.Operator
import EdgePlane.Proofs.Numerals
import Mathlib.Data.List.DropRight

/-!
# Settings from the environment

Four variables of the environment hold numbers. The settings are loaded just if each of them is absent,
blank, or a numeral with blanks around it whose number is in range; the first one of which this is not true
is the one that the error names. All settings are what the variables say, or the standard ones. Settings that
are written to an environment are loaded from it unchanged.
-/

namespace EdgePlane

namespace Text

/-- Whether characters are some others with nothing but blanks around them. -/
def IsPadded (core cs : List Char) : Prop :=
  ∃ before after, cs = before ++ (core ++ after) ∧ ∀ c ∈ before ++ after, isBlank c = true

theorem isPadded_self (cs : List Char) : IsPadded cs cs := ⟨[], [], by simp, by simp⟩

theorem isPadded_trimChars (cs : List Char) : IsPadded (trimChars cs) cs := by
  have front : cs.takeWhile isBlank ++ cs.dropWhile isBlank = cs := List.takeWhile_append_dropWhile
  have back : trimChars cs ++ (cs.dropWhile isBlank).rtakeWhile isBlank = cs.dropWhile isBlank :=
    List.rdropWhile_append_rtakeWhile
  refine ⟨cs.takeWhile isBlank, (cs.dropWhile isBlank).rtakeWhile isBlank, by rw [back, front], ?_⟩
  intro c found
  rcases List.mem_append.1 found with found | found
  · exact List.mem_takeWhile_imp found
  · exact List.mem_rtakeWhile_imp found

/-- Characters of which none is blank are what is left when the blanks around them go. -/
theorem trimChars_of_isPadded {core cs : List Char} (padded : IsPadded core cs)
    (solid : ∀ c ∈ core, isBlank c = false) : trimChars cs = core := by
  obtain ⟨before, after, rfl, blank⟩ := padded
  have front : (before ++ (core ++ after)).dropWhile isBlank = (core ++ after).dropWhile isBlank :=
    List.dropWhile_append_of_pos fun c found => blank c (List.mem_append_left _ found)
  have back : (core ++ after).rdropWhile isBlank = core.rdropWhile isBlank := by
    rw [List.rdropWhile, List.reverse_append, List.dropWhile_append_of_pos, ← List.rdropWhile]
    intro c found
    exact blank c (List.mem_append_right _ (List.mem_reverse.1 found))
  cases core with
  | nil =>
    have nothing : (before ++ ([] ++ after)).dropWhile isBlank = [] := by
      rw [List.dropWhile_eq_nil_iff]
      simpa using blank
    rw [trimChars, nothing]
    rfl
  | cons c core =>
    have start : (c :: core ++ after).dropWhile isBlank = c :: core ++ after :=
      List.dropWhile_cons_of_neg (by rw [solid c List.mem_cons_self]; decide)
    have stop : (c :: core).rdropWhile isBlank = c :: core := by
      rw [List.rdropWhile_eq_self_iff]
      intro some blank
      rw [solid _ (List.getLast_mem some)] at blank
      cases blank
    rw [trimChars, front, start]
    exact back.trans stop

theorem isBlank_of_isDigit {c : Char} (h : isDigit c = true) : isBlank c = false := by
  unfold isDigit digitValue? at h
  split at h
  · rename_i between
    have least : 48 ≤ c.toNat := between.1
    have greatest : c.toNat ≤ 57 := between.2
    have apart : ∀ r ∈ blankRanges, c.toNat < r.1 ∨ r.2 < c.toNat := by
      simp only [blankRanges, List.forall_mem_cons, List.not_mem_nil, false_implies, implies_true, and_true]
      omega
    rw [isBlank, List.any_eq_false]
    intro r found
    have := apart r found
    simp only [Bool.and_eq_true, decide_eq_true_eq]
    omega
  · cases h

theorem IsNumeral.solid {cs : List Char} {n : Nat} (h : IsNumeral cs n) : ∀ c ∈ cs, isBlank c = false := by
  cases h with
  | unsigned _ digits => exact fun c found => isBlank_of_isDigit (digits c found)
  | signed _ digits =>
    rw [List.forall_mem_cons]
    exact ⟨by decide, fun c found => isBlank_of_isDigit (digits c found)⟩

theorem IsNumeral.ne_nil {cs : List Char} {n : Nat} (h : IsNumeral cs n) : cs ≠ [] := by
  cases h with
  | unsigned some _ => exact some
  | signed _ _ => exact List.cons_ne_nil _ _

end Text

open Text

namespace Settings

/-- The variables with numbers, in the order in which they are read. -/
def numbered : List String := [attemptsVariable, intervalVariable, timeoutVariable, requeueVariable]

section

variable (environment : String → Option String)

/-- Whether a variable says nothing: it is absent or blank. -/
def IsSilent (name : String) : Prop :=
  ∀ raw, environment name = some raw → ∀ c ∈ raw.toList, isBlank c = true

/-- The number of 64 bits that a variable says, if it says anything. -/
inductive Says (name : String) : Option Nat → Prop
  | nothing (silent : IsSilent environment name) : Says name none
  | number {raw : String} {core : List Char} {n : Nat} (found : environment name = some raw)
    (padded : IsPadded core raw.toList) (numeral : IsNumeral core n) (fits : n < UInt64.size) :
    Says name (some n)

/-- Whether a variable with a number can be read. The number of attempts is positive and has 32 bits. -/
def IsAcceptable (name : String) : Prop :=
  ∃ said, Says environment name said ∧
    (name = attemptsVariable → ∀ n ∈ said, 1 ≤ n ∧ n < UInt32.size)

/-- Whether a text is what a variable says, or there is none because the variable says nothing. -/
def Gives (name : String) (text : Option String) : Prop :=
  ∀ raw, text = some raw ↔ environment name = some raw ∧ ∃ c ∈ raw.toList, isBlank c = false

/-- Whether settings are what the variables say, or the standard ones where these say nothing. -/
structure AreSaid (s : Settings) : Prop where
  attempts : ∃ said, Says environment attemptsVariable said ∧
    s.retry.attempts = said.getD standard.retry.attempts
  interval : ∃ said, Says environment intervalVariable said ∧
    s.retry.interval = said.elim standard.retry.interval .ofMilliseconds
  httpTimeout : ∃ said, Says environment timeoutVariable said ∧
    s.httpTimeout = said.elim standard.httpTimeout .ofSeconds
  requeueDelay : ∃ said, Says environment requeueVariable said ∧
    s.requeueDelay = said.elim standard.requeueDelay .ofSeconds
  namespaceName : Gives environment namespaceVariable s.namespaceName
  registry : ∃ text, Gives environment registryVariable text ∧
    s.images.registry = text.getD standard.images.registry
  tag : ∃ text, Gives environment tagVariable text ∧ s.images.tag = text.getD standard.images.tag

end

variable {environment : String → Option String} {name : String}

theorem given_eq_none_iff : given environment name = none ↔ IsSilent environment name := by
  simp [given, IsSilent, allBlank, Option.filter_eq_none_iff]

theorem given_eq_some_iff {raw : String} : given environment name = some raw ↔
    environment name = some raw ∧ ∃ c ∈ raw.toList, isBlank c = false := by
  simp [given, allBlank, Option.filter_eq_some_iff]

theorem gives_given (environment : String → Option String) (name : String) :
    Gives environment name (given environment name) := fun _ => given_eq_some_iff

theorem Gives.eq_given {text : Option String} (h : Gives environment name text) :
    text = given environment name := by
  ext raw
  exact (h raw).trans given_eq_some_iff.symm

/-- A numeral with blanks around it is given, and left when the blanks go. -/
theorem given_of_numeral {raw : String} {core : List Char} {n : Nat} (found : environment name = some raw)
    (padded : IsPadded core raw.toList) (numeral : IsNumeral core n) :
    given environment name = some raw ∧ trimChars raw.toList = core := by
  refine ⟨given_eq_some_iff.2 ⟨found, ?_⟩, trimChars_of_isPadded padded numeral.solid⟩
  obtain ⟨before, after, whole, -⟩ := padded
  obtain ⟨c, inside⟩ := List.exists_mem_of_ne_nil core numeral.ne_nil
  refine ⟨c, ?_, numeral.solid c inside⟩
  rw [whole]
  exact List.mem_append_right _ (List.mem_append_left _ inside)

/-- A variable is read as what it says. -/
theorem number_eq_ok_iff {said : Option Nat} :
    number environment name = .ok said ↔ Says environment name said := by
  unfold number
  cases held : given environment name with
  | none =>
    simp only [Except.ok.injEq]
    constructor
    · rintro rfl
      exact .nothing (given_eq_none_iff.1 held)
    · rintro (_ | ⟨found, padded, numeral, -⟩)
      · rfl
      · rw [(given_of_numeral found padded numeral).1] at held
        cases held
  | some raw =>
    obtain ⟨found, -⟩ := given_eq_some_iff.1 held
    constructor
    · intro read
      cases result : readNumeral (UInt64.size - 1) (trimChars raw.toList) with
      | error cause =>
        simp only [result] at read
        cases read
      | ok n =>
        obtain ⟨numeral, small⟩ := readNumeral_eq_ok_iff.1 result
        simp only [result] at read
        obtain rfl := Except.ok.inj read
        exact .number found (isPadded_trimChars _) numeral (Nat.lt_of_le_pred (by decide) small)
    · rintro (silent | ⟨found', padded, numeral, fits⟩)
      · rw [given_eq_none_iff.2 silent] at held
        cases held
      · obtain ⟨held', trimmed⟩ := given_of_numeral found' padded numeral
        obtain rfl := Option.some.inj (held'.symm.trans held)
        have read := readNumeral_eq_ok_iff.2 ⟨numeral, Nat.le_sub_one_of_lt fits⟩
        simp only [trimmed, read]

/-- The variable that is to blame for an error. -/
def blamed : SettingsError → String
  | .notNumber name _ _ => name
  | .tooManyAttempts _ => attemptsVariable
  | .noAttempts => attemptsVariable

/-- An error is worded with the variable that is to blame in front. -/
theorem message_blamed (e : SettingsError) : ∃ rest, e.message = blamed e ++ rest := by
  cases e with
  | notNumber name raw cause =>
    exact ⟨" must be an integer (" ++ raw ++ "): " ++ cause.message, by
      simp only [SettingsError.message, blamed, String.append_assoc]⟩
  | tooManyAttempts n =>
    exact ⟨" out of range (" ++ decimal n ++ "): " ++ NumeralError.tooLarge.message, by
      simp only [SettingsError.message, blamed, String.append_assoc]⟩
  | noAttempts => exact ⟨_, rfl⟩

theorem blamed_of_number {e : SettingsError} (failed : number environment name = .error e) :
    blamed e = name ∧ ∀ said, ¬ Says environment name said := by
  refine ⟨?_, fun said h => ?_⟩
  · unfold number at failed
    split at failed
    · cases failed
    · split at failed
      · cases failed
      · obtain rfl := Except.error.inj failed
        rfl
  · rw [number_eq_ok_iff.2 h] at failed
    cases failed

theorem Says.unique {said said' : Option Nat} (h : Says environment name said)
    (h' : Says environment name said') : said = said' :=
  Except.ok.inj ((number_eq_ok_iff.2 h).symm.trans (number_eq_ok_iff.2 h'))

/-- What the variables say determines the settings. -/
theorem AreSaid.unique {s s' : Settings} (h : AreSaid environment s) (h' : AreSaid environment s') :
    s = s' := by
  have same {name : String} {β : Type} {x x' : β} {f : Option Nat → β}
      (hx : ∃ said, Says environment name said ∧ x = f said)
      (hx' : ∃ said, Says environment name said ∧ x' = f said) : x = x' := by
    obtain ⟨said, h, rfl⟩ := hx
    obtain ⟨said', h', rfl⟩ := hx'
    rw [h.unique h']
  have text {name x x' usual : String} (hx : ∃ text, Gives environment name text ∧ x = text.getD usual)
      (hx' : ∃ text, Gives environment name text ∧ x' = text.getD usual) : x = x' := by
    obtain ⟨text, h, rfl⟩ := hx
    obtain ⟨text', h', rfl⟩ := hx'
    rw [h.eq_given, h'.eq_given]
  have attempts := same h.attempts h'.attempts
  have interval := same h.interval h'.interval
  have httpTimeout := same h.httpTimeout h'.httpTimeout
  have requeueDelay := same h.requeueDelay h'.requeueDelay
  have namespaceName := h.namespaceName.eq_given.trans h'.namespaceName.eq_given.symm
  have registry := text h.registry h'.registry
  have tag := text h.tag h'.tag
  obtain ⟨_, ⟨_, _⟩, _, _, ⟨_, _⟩⟩ := s
  obtain ⟨_, ⟨_, _⟩, _, _, ⟨_, _⟩⟩ := s'
  rw [mk.injEq, RetryLimit.mk.injEq, DefaultImages.mk.injEq]
  exact ⟨namespaceName, ⟨attempts, interval⟩, httpTimeout, requeueDelay, registry, tag⟩

theorem isAcceptable_of_ok {said : Option Nat} (read : number environment name = .ok said)
    (other : name ≠ attemptsVariable) : IsAcceptable environment name :=
  ⟨said, number_eq_ok_iff.1 read, fun same => absurd same other⟩

theorem not_isAcceptable_of_error {e : SettingsError} (failed : number environment name = .error e) :
    blamed e = name ∧ ¬ IsAcceptable environment name :=
  ⟨(blamed_of_number failed).1, fun ⟨said, h, _⟩ => (blamed_of_number failed).2 said h⟩

/-- The attempts are what their variable says, if that is in range. -/
theorem attempts_of_ok {n : Nat} (read : attempts environment = .ok n) :
    IsAcceptable environment attemptsVariable ∧
      ∃ said, Says environment attemptsVariable said ∧ n = said.getD standard.retry.attempts := by
  unfold attempts at read
  cases result : number environment attemptsVariable with
  | error e =>
    rw [result] at read
    cases read
  | ok said =>
    have h := number_eq_ok_iff.1 result
    rw [result] at read
    cases said with
    | none =>
      obtain rfl := Except.ok.inj read
      exact ⟨⟨none, h, fun _ => nofun⟩, none, h, rfl⟩
    | some k =>
      change (if UInt32.size ≤ k then _ else if k = 0 then _ else _) = _ at read
      split at read
      · cases read
      split at read
      · cases read
      obtain rfl := Except.ok.inj read
      refine ⟨⟨some k, h, fun _ n same => ?_⟩, some k, h, rfl⟩
      obtain rfl := Option.some.inj same
      omega

theorem attempts_of_error {e : SettingsError} (failed : attempts environment = .error e) :
    blamed e = attemptsVariable ∧ ¬ IsAcceptable environment attemptsVariable := by
  unfold attempts at failed
  cases result : number environment attemptsVariable with
  | error e' =>
    rw [result] at failed
    obtain rfl := Except.error.inj failed
    exact not_isAcceptable_of_error result
  | ok said =>
    have h := number_eq_ok_iff.1 result
    rw [result] at failed
    cases said with
    | none => cases failed
    | some k =>
      have range (outside : ¬ (1 ≤ k ∧ k < UInt32.size)) : ¬ IsAcceptable environment attemptsVariable := by
        rintro ⟨said, h', within⟩
        exact outside (within rfl k (h.unique h' ▸ rfl))
      change (if UInt32.size ≤ k then _ else if k = 0 then _ else _) = _ at failed
      split at failed
      · obtain rfl := Except.error.inj failed
        exact ⟨rfl, range (by omega)⟩
      split at failed
      · obtain rfl := Except.error.inj failed
        exact ⟨rfl, range (by omega)⟩
      · cases failed

/-- Whether a variable is the first of those with numbers that cannot be read. -/
def IsFirstFault (environment : String → Option String) (name : String) : Prop :=
  ∃ before after, numbered = before ++ name :: after ∧ (∀ v ∈ before, IsAcceptable environment v) ∧
    ¬ IsAcceptable environment name

/-- Loading either comes to what the variables say or blames the first that cannot be read. -/
theorem load_cases (environment : String → Option String) :
    (∃ e, load environment = .error e ∧ IsFirstFault environment (blamed e)) ∨
      ∃ s, load environment = .ok s ∧ (∀ v ∈ numbered, IsAcceptable environment v) ∧
        AreSaid environment s := by
  have fault {name : String} {e : SettingsError} (before after : List String)
      (failed : blamed e = name ∧ ¬ IsAcceptable environment name)
      (order : numbered = before ++ name :: after) (read : ∀ v ∈ before, IsAcceptable environment v) :
      IsFirstFault environment (blamed e) := by
    obtain ⟨rfl, fault⟩ := failed
    exact ⟨before, after, order, read, fault⟩
  cases attempts' : attempts environment with
  | error e =>
    refine .inl ⟨e, by rw [load, attempts']; rfl, ?_⟩
    exact fault [] _ (attempts_of_error attempts') rfl (List.forall_mem_nil _)
  | ok n =>
  obtain ⟨first, said⟩ := attempts_of_ok attempts'
  cases interval' : number environment intervalVariable with
  | error e =>
    refine .inl ⟨e, by rw [load, attempts', interval']; rfl, ?_⟩
    exact fault [_] _ (not_isAcceptable_of_error interval') rfl (by simpa using first)
  | ok interval =>
  have second := isAcceptable_of_ok interval' (by decide)
  cases timeout' : number environment timeoutVariable with
  | error e =>
    refine .inl ⟨e, by rw [load, attempts', interval', timeout']; rfl, ?_⟩
    exact fault [_, _] _ (not_isAcceptable_of_error timeout') rfl (by simpa using ⟨first, second⟩)
  | ok timeout =>
  have third := isAcceptable_of_ok timeout' (by decide)
  cases requeue' : number environment requeueVariable with
  | error e =>
    refine .inl ⟨e, by rw [load, attempts', interval', timeout', requeue']; rfl, ?_⟩
    exact fault [_, _, _] _ (not_isAcceptable_of_error requeue') rfl
      (by simpa using ⟨first, second, third⟩)
  | ok requeue =>
  have fourth := isAcceptable_of_ok requeue' (by decide)
  refine .inr ⟨_, by rw [load, attempts', interval', timeout', requeue']; rfl,
    by simpa [numbered] using ⟨first, second, third, fourth⟩, ?_⟩
  exact {
    attempts := said
    interval := ⟨interval, number_eq_ok_iff.1 interval', rfl⟩
    httpTimeout := ⟨timeout, number_eq_ok_iff.1 timeout', rfl⟩
    requeueDelay := ⟨requeue, number_eq_ok_iff.1 requeue', rfl⟩
    namespaceName := gives_given environment namespaceVariable
    registry := ⟨_, gives_given environment registryVariable, rfl⟩
    tag := ⟨_, gives_given environment tagVariable, rfl⟩ }

/-- What the variables say is loaded, if those with numbers can be read. -/
theorem load_of_areSaid {s : Settings} (readable : ∀ v ∈ numbered, IsAcceptable environment v)
    (said : AreSaid environment s) : load environment = .ok s := by
  rcases load_cases environment with ⟨e, -, before, after, order, -, fault⟩ | ⟨s', loaded, -, said'⟩
  · exact absurd (readable _ (by rw [order]; simp)) fault
  · rw [loaded, said.unique said']

/-- The environment that says some settings, with numbers in plain decimals. -/
def written (s : Settings) (name : String) : Option String :=
  if name = namespaceVariable then s.namespaceName
  else if name = attemptsVariable then some (decimal s.retry.attempts)
  else if name = intervalVariable then some (decimal s.retry.interval.milliseconds)
  else if name = timeoutVariable then some (decimal s.httpTimeout.seconds)
  else if name = requeueVariable then some (decimal s.requeueDelay.seconds)
  else if name = registryVariable then some s.images.registry
  else if name = tagVariable then some s.images.tag
  else none

/-- Whether settings can be said by an environment: times are whole numbers of their units, numbers are in
range, and texts are not blank. -/
structure AreSayable (s : Settings) : Prop where
  attempts : 1 ≤ s.retry.attempts ∧ s.retry.attempts < UInt32.size
  interval : ∃ n < UInt64.size, s.retry.interval = .ofMilliseconds n
  httpTimeout : ∃ n < UInt64.size, s.httpTimeout = .ofSeconds n
  requeueDelay : ∃ n < UInt64.size, s.requeueDelay = .ofSeconds n
  namespaceName : ∀ ns ∈ s.namespaceName, ∃ c ∈ ns.toList, isBlank c = false
  registry : ∃ c ∈ s.images.registry.toList, isBlank c = false
  tag : ∃ c ∈ s.images.tag.toList, isBlank c = false

theorem says_of_decimal {n : Nat} (found : environment name = some (decimal n)) (fits : n < UInt64.size) :
    Says environment name (some n) := .number found (isPadded_self _) (isNumeral_decimal n) fits

theorem gives_of_solid {text : Option String} (found : environment name = text)
    (solid : ∀ raw ∈ text, ∃ c ∈ raw.toList, isBlank c = false) : Gives environment name text := by
  intro raw
  rw [found]
  exact ⟨fun held => ⟨held, solid raw held⟩, And.left⟩

/-- Settings that are written to an environment are loaded from it. -/
theorem load_written {s : Settings} (h : AreSayable s) : load s.written = .ok s := by
  obtain ⟨interval, intervalFits, intervalWhole⟩ := h.interval
  obtain ⟨timeout, timeoutFits, timeoutWhole⟩ := h.httpTimeout
  obtain ⟨requeue, requeueFits, requeueWhole⟩ := h.requeueDelay
  have attempts : Says s.written attemptsVariable (some s.retry.attempts) :=
    says_of_decimal rfl (Nat.lt_trans h.attempts.2 (by decide))
  have intervals : Says s.written intervalVariable (some interval) :=
    says_of_decimal (by simp [written, intervalWhole]; rfl) intervalFits
  have timeouts : Says s.written timeoutVariable (some timeout) :=
    says_of_decimal (by simp [written, timeoutWhole]; rfl) timeoutFits
  have requeues : Says s.written requeueVariable (some requeue) :=
    says_of_decimal (by simp [written, requeueWhole]; rfl) requeueFits
  refine load_of_areSaid ?_ {
    attempts := ⟨_, attempts, rfl⟩
    interval := ⟨_, intervals, intervalWhole⟩
    httpTimeout := ⟨_, timeouts, timeoutWhole⟩
    requeueDelay := ⟨_, requeues, requeueWhole⟩
    namespaceName := gives_of_solid rfl h.namespaceName
    registry := ⟨some s.images.registry, gives_of_solid rfl (by simpa using h.registry), rfl⟩
    tag := ⟨some s.images.tag, gives_of_solid rfl (by simpa using h.tag), rfl⟩ }
  have inRange : IsAcceptable s.written attemptsVariable := by
    refine ⟨_, attempts, fun _ n same => ?_⟩
    obtain rfl := Option.some.inj same
    exact h.attempts
  have other {name : String} {n : Nat} (said : Says s.written name (some n))
      (isOther : name ≠ attemptsVariable) : IsAcceptable s.written name :=
    ⟨_, said, fun same => absurd same isOther⟩
  simp only [numbered, List.forall_mem_cons]
  exact ⟨inRange, other intervals (by decide), other timeouts (by decide), other requeues (by decide),
    List.forall_mem_nil _⟩

/-- Settings are loaded just if every variable with a number can be read. Otherwise the operator ends with
an invalid configuration that blames the first of them that cannot. Settings that are loaded are what the
variables say, or the standard ones. Settings that an environment can say are loaded from the one that says
them. -/
theorem load_exact :
    (∀ environment : String → Option String,
      ((∃ s, load environment = .ok s) ↔ ∀ v ∈ numbered, IsAcceptable environment v) ∧
      (∀ e, load environment = .error e → IsFirstFault environment (blamed e) ∧
        (∃ rest, e.message = blamed e ++ rest) ∧
        (Operator.start environment).2.render = "Error: InvalidConfig(" ++ quoted e.message ++ ")") ∧
      ∀ s, load environment = .ok s → AreSaid environment s) ∧
    ∀ s, AreSayable s → load s.written = .ok s := by
  refine ⟨fun environment => ?_, fun s => load_written⟩
  rcases load_cases environment with ⟨e, failed, fault⟩ | ⟨s, loaded, readable, said⟩
  · refine ⟨iff_of_false ?_ ?_, fun e' failed' => ?_, fun s loaded => ?_⟩
    · rintro ⟨s, loaded⟩
      rw [failed] at loaded
      cases loaded
    · intro readable
      obtain ⟨before, after, order, -, unreadable⟩ := fault
      exact unreadable (readable _ (by rw [order]; simp))
    · obtain rfl := Except.error.inj (failed.symm.trans failed')
      refine ⟨fault, message_blamed e, ?_⟩
      rw [Operator.start, failed]
      rfl
    · rw [failed] at loaded
      cases loaded
  · refine ⟨iff_of_true ⟨s, loaded⟩ readable, fun e failed => ?_, fun s' loaded' => ?_⟩
    · rw [loaded] at failed
      cases failed
    · obtain rfl := Except.ok.inj (loaded.symm.trans loaded')
      exact said

/-- A number with a sign, zeros and blanks around it, a blank variable, and a word in place of a number. -/
def wordy : String → Option String :=
  (Dict.ofList [(attemptsVariable, "\u00a0+0003 "), (intervalVariable, "\t"), (requeueVariable, "soon")]).get?

/-- Settings that differ from the standard ones in everything. -/
def patient : Settings :=
  ⟨some "edge", ⟨3, .ofMilliseconds 250⟩, .ofSeconds 2, .ofSeconds 0, ⟨"registry.example/edge/", " 3.0.1"⟩⟩

/-- The word is blamed, not the blank variable, and the other settings are loaded from what is written. -/
theorem load_exact_wordy :
    load wordy = .error (.notNumber requeueVariable "soon" .notDigit) ∧
      IsFirstFault wordy requeueVariable ∧ AreSayable patient ∧ load patient.written = .ok patient ∧
      AreSaid patient.written patient := by
  have refused : load wordy = .error (.notNumber requeueVariable "soon" .notDigit) := by decide +kernel
  have sayable : AreSayable patient := {
    attempts := by decide
    interval := ⟨250, by decide, rfl⟩
    httpTimeout := ⟨2, by decide, rfl⟩
    requeueDelay := ⟨0, by decide, rfl⟩
    namespaceName := by
      rintro _ ⟨⟩
      exact ⟨'e', by decide, by decide⟩
    registry := ⟨'r', by decide, by decide⟩
    tag := ⟨'3', by decide, by decide⟩ }
  have loaded := load_exact.2 patient sayable
  exact ⟨refused, ((load_exact.1 wordy).2.1 _ refused).1, sayable, loaded,
    (load_exact.1 patient.written).2.2 patient loaded⟩

end Settings

end EdgePlane
