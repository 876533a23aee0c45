import EdgePlane.ControlPlane.Definition
import EdgePlane.Failure
import EdgePlane.Json.Parser
import EdgePlane.Kubernetes.Object
import EdgePlane.Net.Http
import EdgePlane.Text.Quoted

/-!
# The client of the cluster's interface

Each operation on the cluster is one request. Objects are applied under the operator's name as manager of
their fields, and by force. An answer is an object of the expected kind, or a status that says what is
wrong.
-/

namespace EdgePlane.Kubernetes

open Json Net Text

/-- The name under which the operator manages the fields of objects. -/
def fieldManager : String := "ecn-operator"

/-- The annotation of pods whose change replaces them. -/
def restartTimeKey : String := "kubectl.kubernetes.io/restartedAt"

/-- The part of the interface that has the objects of a kind. -/
def Kind.root : Kind → String
  | .role => "/apis/" ++ rbacGroup ++ "/v1"
  | .roleBinding => "/apis/" ++ rbacGroup ++ "/v1"
  | .deployment => "/apis/apps/v1"
  | _ => "/api/v1"

/-- The name of the objects of a kind in paths. -/
def Kind.plural : Kind → String
  | .serviceAccount => "serviceaccounts"
  | .role => "roles"
  | .roleBinding => "rolebindings"
  | .service => "services"
  | .deployment => "deployments"
  | .volumeClaim => "persistentvolumeclaims"
  | .secret => "secrets"

/-- The path of the objects of a kind in a namespace. -/
def Kind.path (kind : Kind) (ns : String) : String :=
  kind.root ++ "/namespaces/" ++ ns ++ "/" ++ kind.plural

/-- The path of control planes, in one namespace or in all. -/
def controlPlanesPath (ns : Option String) : String :=
  "/apis/" ++ ControlPlane.apiVersion ++ (ns.elim "" ("/namespaces/" ++ ·)) ++ "/" ++ ControlPlane.plural

/-- The words of the client. -/
structure Wording extends Net.Wording where
  /-- Says what an answer that is no success has to say. -/
  refused : Answer → String

namespace Client

/-- Whether a character is not one that steers a terminal, or a blank. -/
def isVisible (c : Char) : Bool := 0x20 < c.toNat && c.toNat ≠ 0x7F

/-- Whether a character may stand in a path. -/
def isPathChar (c : Char) : Bool := isVisible c && c ∉ ['<', '>', '\x60']

/-- Whether a character may stand in a query. -/
def isQueryChar (c : Char) : Bool := isVisible c && c ∉ ['<', '>', '"']

/-- The greatest number of bytes in a target. -/
def targetLimit : Nat := 65534

/-- A path with parameters. -/
def withParameters (path : String) (parameters : List String) : String :=
  path ++ "?" ++ String.join (parameters.map ("&" ++ ·))

/-- The failure of a request that cannot be made because of a part of it. -/
def unsent (wording : Wording) (part : String) : Failure := .cluster (.transport (wording.unsent part))

variable (wording : Wording)

/-- A request for a target. What follows a question mark in it is the query, even where a name brought it
in, and what follows a number sign is not sent. -/
def request (method target : String) (contentType : Option String) (body : Option Json) :
    Except Failure Request :=
  let cs := target.toList.takeWhile (· ≠ '#')
  let path := cs.takeWhile (· ≠ '?')
  let query := (cs.dropWhile (· ≠ '?')).drop 1
  if path.all isPathChar && query.all isQueryChar && target.utf8ByteSize ≤ targetLimit then
    .ok { method, path := String.ofList path
          query := (((String.ofList query).splitOn "&").filter (· ≠ "")).mergeSort
            fun a b => decide (a ≤ b)
          contentType, body }
  else .error (unsent wording target)

/-- The path of a named object, whose name must not be empty. -/
def named (path name : String) : Except Failure String :=
  if name.isEmpty then .error (unsent wording path) else .ok (path ++ "/" ++ name)

/-- The namespace of an object, without which it cannot be stored. -/
def requiredNamespace (m : Metadata) : Except Failure String :=
  match m.namespaceName with
  | some ns => .ok ns
  | none => .error (.invalidConfig ("object " ++ m.nameAny ++ " has no namespace"))

/-- The request for an object. -/
def getRequest (a : Address) : Except Failure Request := do
  request wording "GET" (← named wording (a.kind.path a.namespaceName) a.name) none none

/-- The request for a new object. -/
def createRequest (o : Object) : Except Failure Request := do
  let ns ← requiredNamespace o.metadata
  request wording "POST" (withParameters (o.kind.path ns) []) (some jsonType) (some o.encode)

/-- The request for an object to be as it is declared. -/
def applyRequest (o : Object) : Except Failure Request := do
  let ns ← requiredNamespace o.metadata
  let path ← named wording (o.kind.path ns) o.metadata.nameAny
  request wording "PATCH" (withParameters path ["force=true", "fieldManager=" ++ fieldManager])
    (some "application/apply-patch+yaml") (some o.encode)

/-- The type of a body that says how to change an object. -/
def mergePatchType : String := "application/merge-patch+json"

/-- The request for new pods of a Deployment. -/
def restartRequest (ns name time : String) : Except Failure Request := do
  let annotations := Json.obj [(restartTimeKey, .str time)]
  let path ← named wording (Kind.deployment.path ns) name
  request wording "PATCH" (withParameters path []) (some mergePatchType)
    (some (.obj [("spec", .obj [("template", .obj [("metadata",
      .obj [("annotations", annotations)])])])]))

/-- The request for a control plane. -/
def fetchRequest (ns name : String) : Except Failure Request := do
  request wording "GET" (← named wording (controlPlanesPath (some ns)) name) none none

/-- The request for a control plane to have certain conditions. -/
def recordRequest (cp : ControlPlane) (conditions : List ControlPlane.Condition) :
    Except Failure Request := do
  let ns ← requiredNamespace cp.metadata
  let path ← named wording (controlPlanesPath (some ns)) cp.name
  request wording "PATCH" (withParameters (path ++ "/status") []) (some mergePatchType)
    (some (.obj [("status",
      .obj [("conditions", (Codec.list ControlPlane.Condition.codec).encode conditions)])]))

/-- The requests of a watch over control planes: a list of them, and then the changes. -/
def watchRequests (ns : Option String) : List (Request × Bool) :=
  let list : Request := { method := "GET", path := controlPlanesPath ns }
  [(list, false), (list, true)]

/-- What the cluster says is wrong. -/
structure StatusMessage where
  status : String
  message : String
  reason : String
  code : Nat
  deriving Repr, DecidableEq

/-- The form of such a message. -/
def StatusMessage.codec : Codec StatusMessage :=
  (Fields.of StatusMessage.mk
    |>.and (.required "status" status .text)
    |>.and (.defaulted "message" message .text "")
    |>.and (.defaulted "reason" reason .text "")
    |>.and (.required "code" code (.natural (UInt16.size - 1)))).record

/-- The error of an answer that is not a success. -/
def statusError (a : Answer) : ClusterError :=
  match (read? a.body).bind StatusMessage.codec.decode with
  | some m => .status m.code m.reason m.message (wording.refused a)
  | none => .status a.status "Failed to parse error data" (quoted a.body) (wording.refused a)

/-- The object in an answer. -/
def read {α : Type} (decode : Json → Option α) (a : Answer) : Except Failure α :=
  if 400 ≤ a.status ∧ a.status < 600 then .error (.cluster (statusError wording a))
  else
    match (read? a.body).bind decode with
    | some v => .ok v
    | none => .error (.cluster (.unreadable (wording.unread a.body)))

/-- The object in an answer, if there is one of the name. -/
def readOptional {α : Type} (decode : Json → Option α) (a : Answer) : Except Failure (Option α) :=
  match read wording decode a with
  | .ok v => .ok (some v)
  | .error (.cluster (.status code reason message text)) =>
    if reason = "NotFound" then .ok none else .error (.cluster (.status code reason message text))
  | .error failure => .error failure

/-- Looks for an object. -/
def get (a : Address) : Exchange Failure (Option Object) :=
  ⟨getRequest wording a, readOptional wording (Object.decode a.kind)⟩

/-- Creates an object. -/
def create (o : Object) : Exchange Failure Object :=
  ⟨createRequest wording o, read wording (Object.decode o.kind)⟩

/-- Makes an object as it is declared. -/
def apply (o : Object) : Exchange Failure Object :=
  ⟨applyRequest wording o, read wording (Object.decode o.kind)⟩

/-- Replaces the pods of a Deployment. -/
def restart (ns name time : String) : Exchange Failure Object :=
  ⟨restartRequest wording ns name time, read wording (Object.decode .deployment)⟩

/-- Looks for a control plane. -/
def fetch (ns name : String) : Exchange Failure (Option ControlPlane) :=
  ⟨fetchRequest wording ns name, readOptional wording ControlPlane.codec.decode⟩

/-- Records the conditions of a control plane. -/
def record (cp : ControlPlane) (conditions : List ControlPlane.Condition) :
    Exchange Failure ControlPlane :=
  ⟨recordRequest wording cp conditions, read wording ControlPlane.codec.decode⟩

end Client

end EdgePlane.Kubernetes
