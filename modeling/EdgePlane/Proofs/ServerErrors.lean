import EdgePlane.Management.Client
import EdgePlane.Proofs.Form
import EdgePlane.Proofs.JsonReader
import EdgePlane.Proofs.Numerals

/-!
# Errors of the management interface

An answer other than a success is an error with the message of its body, if the body is an object that has one
and can be read, and with the body as it stands otherwise. What kind of error it is depends on this message
alone: nothing in front of it, in the text of the error, reads as a part of the texts that are looked for.
-/

namespace EdgePlane

open Text

namespace Json

theorem valuesOf_filter_of_ne {name other : String} (h : other ≠ name) (members : List (String × Json)) :
    valuesOf name (members.filter (·.1 ≠ other)) = valuesOf name members := by
  rw [valuesOf, valuesOf, List.filter_filter]
  congr 2
  funext m
  by_cases same : m.1 = name
  · simp [same, Ne.symm h]
  · simp [same]

/-- Of the values of a name the last one is kept. -/
theorem lookup_lastValues (name : String) (members : List (String × Json)) :
    lookup name (lastValues members) = (valuesOf name members).getLast? := by
  suffices kept : valuesOf name (lastValues members) = (valuesOf name members).getLast?.toList by
    rw [lookup_eq_head?, kept]
    cases (valuesOf name members).getLast? <;> rfl
  induction members using List.reverseRecOn with
  | nil => rfl
  | append_singleton members m ih =>
    have step : lastValues (members ++ [m]) = (lastValues members).filter (·.1 ≠ m.1) ++ [m] := by
      simp [lastValues]
    rw [step, valuesOf_append, valuesOf_append]
    by_cases same : m.1 = name
    · subst same
      rw [valuesOf_eq_nil (by simp), valuesOf_singleton, List.getLast?_append]
      rfl
    · have unnamed : ∀ m' ∈ [m], m'.1 ≠ name := by simpa using same
      rw [valuesOf_filter_of_ne same, ih, valuesOf_eq_nil unnamed, List.append_nil, List.append_nil]

end Json

namespace Management

open Net

/-! ## The message of an answer -/

/-- Whether a body is the text of an object, the last member `message` of which is a text. -/
def IsWorded (members : List (String × Json)) (body message : String) : Prop :=
  Json.Document (.obj members) body ∧ (Json.valuesOf "message" members).getLast? = some (.str message)

/-- Whether a body is the text of an object with a message, and can be read. -/
def Words (body message : String) : Prop :=
  ∃ members, IsWorded members body message ∧ (Json.obj members).isReadable = true ∧
    (Json.obj members).depth ≤ Json.Expecting.depthBound

theorem bodyMessage?_eq_some_iff {body message : String} :
    Client.bodyMessage? body = some message ↔ Words body message := by
  constructor
  · intro h
    obtain ⟨v, read, h⟩ := Option.bind_eq_some_iff.1 h
    obtain ⟨members, object, h⟩ := Option.bind_eq_some_iff.1 h
    obtain ⟨w, last, text⟩ := Option.bind_eq_some_iff.1 h
    cases v <;> cases object
    cases w <;> cases text
    obtain ⟨document, readable⟩ := Json.parse?_eq_some_iff.1 read
    rw [Json.lookup_lastValues] at last
    exact ⟨members, ⟨document, last⟩, readable⟩
  · rintro ⟨members, ⟨document, last⟩, readable⟩
    have read := Json.parse?_eq_some_iff.2 ⟨document, readable⟩
    simp [Client.bodyMessage?, read, Json.members?, Json.lookup_lastValues, last, Json.text?]

theorem bodyMessage?_eq_none_iff {body : String} :
    Client.bodyMessage? body = none ↔ ∀ message, ¬ Words body message := by
  rw [Option.eq_none_iff_forall_ne_some]
  exact forall_congr' fun message => not_congr bodyMessage?_eq_some_iff

/-- The calls of a client, whatever words it has for its own errors. -/
inductive Client.IsCall : {α : Type} → Exchange ApiError α → Prop
  | status (wording : Wording) (base : String) : IsCall (Client.status wording base)
  | signUp (wording : Wording) (base : String) (m : SignUp) : IsCall (Client.signUp wording base m)
  | logIn (wording : Wording) (base : String) (m : LogIn) : IsCall (Client.logIn wording base m)
  | changePassword (wording : Wording) (base token : String) (m : PasswordChange) :
    IsCall (Client.changePassword wording base token m)
  | putRouter (wording : Wording) (base token : String) (m : DefaultRouter) :
    IsCall (Client.putRouter wording base token m)

/-- Every call checks its answer before anything else. -/
theorem read_of_check {α : Type} {call : Exchange ApiError α} (isCall : Client.IsCall call) {a : Answer}
    {e : ApiError} (h : Client.check a = .error e) : call.read a = .error e := by
  cases isCall with
  | status | logIn =>
    simp only [Client.status, Client.logIn, Client.read, h]
    rfl
  | signUp | changePassword | putRouter =>
    simp only [Client.signUp, Client.changePassword, Client.putRouter, Client.acknowledge, h]
    rfl

end Management

/-! ## The text in front of the message -/

/-- No text starts where its first character is missing. -/
theorem infix_append_iff_of_absent {x : Char} {xs start s : List Char} (absent : x ∉ start) :
    x :: xs <:+: start ++ s ↔ x :: xs <:+: s := by
  induction start with
  | nil => rfl
  | cons c start ih =>
    have other : x ≠ c := List.ne_of_not_mem_cons absent
    have absent' : x ∉ start := List.not_mem_of_not_mem_cons absent
    rw [List.cons_append, List.infix_cons_iff, List.cons_prefix_cons, ih absent']
    simp [other]

/-- No text starts where its second character is missing. -/
theorem infix_cons_iff_of_second {x y c d : Char} {xs s : List Char} (other : y ≠ d) :
    x :: y :: xs <:+: c :: d :: s ↔ x :: y :: xs <:+: d :: s := by
  rw [List.infix_cons_iff, List.cons_prefix_cons, List.cons_prefix_cons]
  simp [other]

theorem not_i_mem_lower_decimal (n : Nat) : 'i' ∉ (lower (decimal n)).toList := by
  have digits : ∀ d < 10, 'i' ∉ lowerChar (digitChar d) := by decide
  rw [lower, String.toList_ofList]
  intro h
  obtain ⟨c, written, here⟩ := List.mem_flatMap.1 h
  obtain ⟨d, small, rfl⟩ := exists_digitChar_of_isDigit (isDigit_of_mem_decimal written)
  exact digits d small here

namespace ApiError

variable {code : Nat} {text : String}

theorem isAccountExists_status_iff : (status code text).isAccountExists = true ↔
    "already an account associated".toList <:+: text.toList := by
  have spelled : "already an account associated".toList = 'a' :: "lready an account associated".toList := by
    decide +kernel
  have absent : 'a' ∉ ("ECN API error (" ++ decimal code ++ "): ").toList := by
    rw [String.toList_append, String.toList_append, List.mem_append, List.mem_append]
    rintro ((h | h) | h)
    · exact absurd h (by decide +kernel)
    · exact absurd (isDigit_of_mem_decimal h) (by decide)
    · exact absurd h (by decide +kernel)
  have reads : (status code text).isAccountExists = true ↔
      "already an account associated".toList <:+: (status code text).message.toList := occursIn_iff
  have whole : (status code text).message.toList =
      ("ECN API error (" ++ decimal code ++ "): ").toList ++ text.toList := String.toList_append
  rw [reads, whole, spelled]
  exact infix_append_iff_of_absent absent

theorem isInvalidCredentials_status_iff : (status code text).isInvalidCredentials = true ↔
    "invalid credentials".toList <:+: (lower text).toList := by
  have spelled : "invalid credentials".toList = 'i' :: 'n' :: "valid credentials".toList := by decide +kernel
  -- the one `i` in front of the message is that of "api", with a blank behind it
  have begins : (lower "ECN API error (").toList = "ecn ap".toList ++ 'i' :: ' ' :: "error (".toList := by
    decide +kernel
  have absent : 'i' ∉ ' ' :: "error (".toList ++ (lower (decimal code)).toList ++ (lower "): ").toList := by
    rw [List.mem_append, List.mem_append]
    rintro ((h | h) | h)
    · exact absurd h (by decide +kernel)
    · exact not_i_mem_lower_decimal code h
    · exact absurd h (by decide +kernel)
  have reads : (status code text).isInvalidCredentials = true ↔
      "invalid credentials".toList <:+: (lower (status code text).message).toList := occursIn_iff
  have whole : (lower (status code text).message).toList = "ecn ap".toList ++ 'i' :: ((' ' :: "error (".toList ++
      (lower (decimal code)).toList ++ (lower "): ").toList) ++ (lower text).toList) := by
    have parts : (status code text).message = "ECN API error (" ++ decimal code ++ "): " ++ text := rfl
    rw [parts, toList_lower_append, toList_lower_append, toList_lower_append, begins]
    simp only [List.append_assoc, List.cons_append]
  rw [reads, whole, spelled, infix_append_iff_of_absent (by decide +kernel)]
  refine Iff.trans ?_ (infix_append_iff_of_absent absent)
  exact infix_cons_iff_of_second (by decide)

end ApiError

namespace Management

open Net

/-- What a call comes to when the answer to its request is no success. -/
theorem run_of_unsuccessful {α : Type} {call : Exchange ApiError α} (isCall : Client.IsCall call)
    {server : Request → Except ApiError Answer} {request : Request} {a : Answer}
    (sent : call.request = .ok request) (answered : server request = .ok a) (failed : a.isSuccess = false) :
    call.run server = .error (.status a.status ((Client.bodyMessage? a.body).getD a.body)) := by
  have refused : Client.check a = .error (.status a.status ((Client.bodyMessage? a.body).getD a.body)) := by
    rw [Client.check, failed]
    rfl
  rw [Exchange.run, sent]
  change (do call.read (← server request)) = _
  rw [answered]
  exact read_of_check isCall refused

/-- Whichever call was made, an answer other than a success is an error with one message: that of the body if
it is the text of an object with a message and can be read, and the whole body otherwise. An error of this kind
is that of a known account just if its message has the words for it, and that of a wrong password just if the
message in lower case has the words for that, whatever the status is. It is never that of a server that does not
serve yet. -/
theorem classified_by_message :
    (∀ a : Answer, a.isSuccess = false → ∃ message : String,
      (∀ m, Words a.body m → message = m) ∧ ((∀ m, ¬ Words a.body m) → message = a.body) ∧
      ∀ {α : Type} {call : Exchange ApiError α}, Client.IsCall call →
        ∀ {server : Request → Except ApiError Answer} {request : Request},
          call.request = .ok request → server request = .ok a →
            call.run server = .error (.status a.status message)) ∧
    ∀ (code : Nat) (message : String),
      ((ApiError.status code message).isAccountExists = true ↔
        "already an account associated".toList <:+: message.toList) ∧
      ((ApiError.status code message).isInvalidCredentials = true ↔
        "invalid credentials".toList <:+: (lower message).toList) ∧
      ((Failure.api (.status code message)).isInvalidCredentials = true ↔
        "invalid credentials".toList <:+: (lower message).toList) ∧
      (ApiError.status code message).isRefused = false := by
  constructor
  · intro a failed
    refine ⟨(Client.bodyMessage? a.body).getD a.body, ?_, ?_, fun isCall _ _ sent answered =>
      run_of_unsuccessful isCall sent answered failed⟩
    · intro m words
      rw [bodyMessage?_eq_some_iff.2 words, Option.getD_some]
    · intro wordless
      rw [bodyMessage?_eq_none_iff.2 wordless, Option.getD_none]
  · intro code message
    exact ⟨ApiError.isAccountExists_status_iff, ApiError.isInvalidCredentials_status_iff,
      ApiError.isInvalidCredentials_status_iff, rfl⟩

/-- An answer to a log-in with a wrong password. -/
def wrongPassword : Answer := ⟨401, "\x7b\"code\":7,\"message\":\"Email or password: INVALID Credentials\"\x7d"⟩

/-- An answer the body of which is no object. -/
def taken : Answer := ⟨409, "There is already an account associated with a@b.c"⟩

/-- A client whose errors are what it could not write or read. -/
def quoting : Wording := ⟨id, id⟩

theorem classified_by_message_of_logIn :
    (wrongPassword.isSuccess = false ∧ Words wrongPassword.body "Email or password: INVALID Credentials" ∧
      (Client.logIn quoting "/api/v3" ⟨"a@b.c", "one"⟩).run (fun _ => .ok wrongPassword) =
        .error (.status 401 "Email or password: INVALID Credentials") ∧
      (Failure.api (.status 401 "Email or password: INVALID Credentials")).isInvalidCredentials = true) ∧
    taken.isSuccess = false ∧ (∀ m, ¬ Words taken.body m) ∧
      (Client.logIn quoting "/api/v3" ⟨"a@b.c", "one"⟩).run (fun _ => .ok taken) =
        .error (.status 409 taken.body) ∧
      (ApiError.status 409 taken.body).isAccountExists = true := by
  have sent : (Client.logIn quoting "/api/v3" ⟨"a@b.c", "one"⟩).request =
      .ok { method := "POST", path := "/api/v3/user/login", contentType := some jsonType,
            body := some (.obj [("email", .str "a@b.c"), ("password", .str "one")]) } := by
    have path : Net.target? ("/api/v3" ++ "/user/login") = some "/api/v3/user/login" := by decide +kernel
    simp only [Client.logIn, Client.logInRequest, Client.bodyRequest, Client.target, path]
    rfl
  have words : Words wrongPassword.body "Email or password: INVALID Credentials" :=
    bodyMessage?_eq_some_iff.1 (by decide +kernel)
  have wordless : ∀ m, ¬ Words taken.body m := bodyMessage?_eq_none_iff.1 (by decide +kernel)
  have call : Client.IsCall (Client.logIn quoting "/api/v3" ⟨"a@b.c", "one"⟩) := .logIn _ _ _
  obtain ⟨answers, kinds⟩ := classified_by_message
  refine ⟨⟨by decide, words, ?_, (kinds _ _).2.2.1.2 (by decide +kernel)⟩, by decide, wordless, ?_,
    (kinds _ _).1.2 (by decide +kernel)⟩
  · obtain ⟨message, worded, -, error⟩ := answers wrongPassword (by decide)
    obtain rfl := worded _ words
    exact error call sent rfl
  · obtain ⟨message, -, whole, error⟩ := answers taken (by decide)
    obtain rfl := whole wordless
    exact error call sent rfl

/-- An answer with a message, and with a number beside it that no floating-point number can stand for. -/
def outOfRange : Answer := ⟨500, "\x7b\"message\":\"x\",\"n\":1e999\x7d"⟩

theorem isWorded_outOfRange :
    IsWorded [("message", .str "x"), ("n", .unreadable)] outOfRange.body "x" := by
  have number : Json.Token.Spelled (.scalar .unreadable) "1e999".toList :=
    .numeral (n := none) (by decide +kernel)
  have text : outOfRange.body.toList = ['\x7b'] ++ (('"' :: "message".toList ++ ['"']) ++ ([':'] ++
      (('"' :: "x".toList ++ ['"']) ++ ([','] ++ (('"' :: "n".toList ++ ['"']) ++ ([':'] ++
        ("1e999".toList ++ (['\x7d'] ++ [])))))))) := by decide +kernel
  refine ⟨?_, rfl⟩
  rw [Json.Document, text]
  have message : Json.Token.Spelled (.str (some "message")) _ := Json.Token.spelled_of_plain (by decide +kernel)
  have x : Json.Token.Spelled (.str (some "x")) _ := Json.Token.spelled_of_plain (by decide +kernel)
  have n : Json.Token.Spelled (.str (some "n")) _ := Json.Token.spelled_of_plain (by decide +kernel)
  exact .token .openObject (.token message (.token .colon (.token x (.token .comma (.token n (.token .colon
    (.token number (.token .closeObject .nil))))))))

/-- An object with a message that cannot be read as a whole: the error has the body in place of the message. -/
theorem not_worded_outOfRange :
    IsWorded [("message", .str "x"), ("n", .unreadable)] outOfRange.body "x" ∧
      outOfRange.isSuccess = false ∧
      (Client.status quoting "/api/v3").run (fun _ => .ok outOfRange) = .error (.status 500 outOfRange.body) ∧
      outOfRange.body ≠ "x" := by
  have sent : (Client.status quoting "/api/v3").request =
      .ok { method := "GET", path := "/api/v3/status", accept := jsonType } := by
    have path : Net.target? ("/api/v3" ++ "/status") = some "/api/v3/status" := by decide +kernel
    simp only [Client.status, Client.statusRequest, Client.target, path]
    rfl
  have unread : Client.bodyMessage? outOfRange.body = none := by decide +kernel
  let server : Request → Except ApiError Answer := fun _ => .ok outOfRange
  have answered (request : Request) : server request = .ok outOfRange := rfl
  have error := run_of_unsuccessful (.status _ _) sent (answered _) rfl
  rw [unread] at error
  exact ⟨isWorded_outOfRange, rfl, error, by decide⟩

end Management

end EdgePlane
