import EdgePlane.Json.Printer

/-!
# Requests and answers

What is sent to a server and what comes back.
-/

namespace EdgePlane.Net

/-- A request: what is asked for, in which words, and what is sent along. -/
structure Request where
  method : String
  path : String
  query : List String := []
  authorization : Option String := none
  accept : String := "*/*"
  contentType : Option String := none
  body : Option Json := none
  deriving Repr, Inhabited

/-- An answer: its status and its body. -/
structure Answer where
  status : Nat
  body : String
  deriving Repr, DecidableEq, Inhabited

/-- The type of a body that is a JSON document. -/
def jsonType : String := "application/json"

/-- The body of a request as it is sent. -/
def Request.bodyText (r : Request) : String := (r.body.map Json.render).getD ""

namespace Answer

/-- An answer, if the status is one. -/
def ofStatus? (status : Nat) (body : String) : Option Answer :=
  if 100 ≤ status ∧ status ≤ 999 then some ⟨status, body⟩ else none

/-- Whether another answer follows. A switch to another protocol is the last one. -/
def isInterim (a : Answer) : Bool := a.status < 200 && a.status ≠ 101

/-- Whether answers of the status never have a body. -/
def isBodiless (a : Answer) : Bool := a.status = 101 || a.status = 204 || a.status = 304

/-- The answer that is received when a status and a body are all that a server sends. -/
def received? (status : Nat) (body : String) : Option Answer :=
  ((ofStatus? status body).filter (!·.isInterim)).map fun a =>
    if a.isBodiless then { a with body := "" } else a

/-- Whether the server did what it was asked for. -/
def isSuccess (a : Answer) : Bool := 200 ≤ a.status && a.status < 300

end Answer

/-- The words of a client for what goes wrong on its own side. -/
structure Wording where
  /-- Says that a request cannot be made, given the part of it that cannot be written. -/
  unsent : String → String
  /-- Says that a body does not have the expected form. -/
  unread : String → String

/-- A request, unless it cannot be made, and how its answer is read. -/
structure Exchange (ε α : Type) where
  request : Except ε Request
  read : Answer → Except ε α

namespace Exchange

variable {ε α β : Type}

/-- The exchange with what is read changed by `f`. -/
def map (f : α → β) (e : Exchange ε α) : Exchange ε β := ⟨e.request, fun a => (e.read a).map f⟩

/-- What an exchange with a server comes to. -/
def run (server : Request → Except ε Answer) (e : Exchange ε α) : Except ε α := do
  e.read (← server (← e.request))

end Exchange

end EdgePlane.Net
