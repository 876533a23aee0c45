import EdgePlane.ControlPlane.Basic
import EdgePlane.Management.Model
import EdgePlane.Proofs.Form

/-!
# The forms of specifications, states and messages

Each record is kept by its codec: what it writes and all that says the same, with defaults left out, with
members that nobody knows, or as arrays, is read as the value it was written for. That goes for records
inside records too, since a part may be written in any of its own forms.
-/

namespace EdgePlane

namespace Credential

/-- A credential is written as its encoded text. -/
def form : Form Credential := fun c v => v = .str c.encoded

theorem keeps (c : Credential) : codec.Keeps form c where
  written := rfl
  read := by
    rintro v rfl
    rfl

end Credential

namespace ControlPlane

def Replicas.form : Form Replicas := .record [.defaulted "controller" Replicas.controller .int32 1]

def Images.form : Form Images :=
  .record [.defaulted "controller" Images.controller .text "", .defaulted "router" Images.router .text "",
    .defaulted "portManager" Images.portManager .text "", .defaulted "proxy" Images.proxy .text "",
    .defaulted "pullSecret" Images.pullSecret .text ""]

def Database.form : Form Database :=
  .record [.defaulted "provider" Database.provider .text "", .defaulted "host" Database.host .text "",
    .defaulted "port" Database.port .int32 0, .defaulted "user" Database.user .text "",
    .defaulted "password" Database.password .text "",
    .defaulted "databaseName" Database.databaseName .text ""]

def Exposure.form : Form Exposure :=
  .record [.defaulted "type" Exposure.type .text "", .defaulted "address" Exposure.address .text ""]

def Services.form : Form Services :=
  .record [.defaulted "controller" Services.controller Exposure.form {},
    .defaulted "router" Services.router Exposure.form {}]

def User.form : Form User :=
  .record [.required "name" User.name .text, .required "surname" User.surname .text,
    .required "email" User.email .text, .required "password" User.password Credential.form]

def RouterIngress.form : Form RouterIngress :=
  .record [.defaulted "address" RouterIngress.address .text "",
    .defaulted "messagePort" RouterIngress.messagePort .int32 0,
    .defaulted "interiorPort" RouterIngress.interiorPort .int32 0,
    .defaulted "edgePort" RouterIngress.edgePort .int32 0]

def ProxyIngress.form : Form ProxyIngress := .record [.defaulted "address" ProxyIngress.address .text ""]

def Ingresses.form : Form Ingresses :=
  .record [.defaulted "router" Ingresses.router RouterIngress.form {},
    .defaulted "httpProxy" Ingresses.httpProxy ProxyIngress.form {},
    .defaulted "tcpProxy" Ingresses.tcpProxy ProxyIngress.form {}]

def ControllerSettings.form : Form ControllerSettings :=
  .record [.defaulted "pidBaseDir" ControllerSettings.pidBaseDir .text "",
    .defaulted "ecnViewerPort" ControllerSettings.ecnViewerPort .int32 0,
    .defaulted "ecnViewerUrl" ControllerSettings.ecnViewerUrl .text "",
    .defaulted "ecnName" ControllerSettings.ecnName .text "",
    .defaulted "portProvider" ControllerSettings.portProvider .text "",
    .defaulted "portAllocatorHost" ControllerSettings.portAllocatorHost .text ""]

/-- Everything but the user may be left out where it is as it is by default. -/
def Spec.form : Form Spec :=
  .record [.defaulted "replicas" Spec.replicas Replicas.form {},
    .defaulted "images" Spec.images Images.form {},
    .defaulted "database" Spec.database Database.form {},
    .defaulted "services" Spec.services Services.form {},
    .required "user" Spec.user User.form,
    .defaulted "ingresses" Spec.ingresses Ingresses.form {},
    .defaulted "controller" Spec.controller ControllerSettings.form {}]

def Condition.form : Form Condition :=
  .record [.required "type" Condition.type .text, .required "status" Condition.status .text,
    .optional "lastTransitionTime" Condition.lastTransitionTime .instant]

def Status.form : Form Status := .record [.defaulted "conditions" Status.conditions (.list Condition.form) []]

theorem Replicas.keeps (x : Replicas) : codec.Keeps form x :=
  (Fields.keeps_of _ _ |>.and (.about (.defaulted (.int32 _)))).record rfl rfl (by decide)

theorem Images.keeps (x : Images) : codec.Keeps form x :=
  (Fields.keeps_of _ _
    |>.and (.defaulted (.text _))
    |>.and (.defaulted (.text _))
    |>.and (.defaulted (.text _))
    |>.and (.defaulted (.text _))
    |>.and (.about (.defaulted (.text _)))).record rfl rfl (by decide)

theorem Database.keeps (x : Database) : codec.Keeps form x :=
  (Fields.keeps_of _ _
    |>.and (.defaulted (.text _))
    |>.and (.defaulted (.text _))
    |>.and (.defaulted (.int32 _))
    |>.and (.defaulted (.text _))
    |>.and (.defaulted (.text _))
    |>.and (.defaulted (.text _))).record rfl rfl (by decide)

theorem Exposure.keeps (x : Exposure) : codec.Keeps form x :=
  (Fields.keeps_of _ _
    |>.and (.about (.defaulted (.text _)))
    |>.and (.about (.defaulted (.text _)))).record rfl rfl (by decide)

theorem Services.keeps (x : Services) : codec.Keeps form x :=
  (Fields.keeps_of _ _
    |>.and (.defaulted (Exposure.keeps _))
    |>.and (.defaulted (Exposure.keeps _))).record rfl rfl (by decide)

theorem User.keeps (x : User) : codec.Keeps form x :=
  (Fields.keeps_of _ _
    |>.and (.required (.text _))
    |>.and (.required (.text _))
    |>.and (.required (.text _))
    |>.and (.about (.required (Credential.keeps _)))).record rfl rfl (by decide)

theorem RouterIngress.keeps (x : RouterIngress) : codec.Keeps form x :=
  (Fields.keeps_of _ _
    |>.and (.defaulted (.text _))
    |>.and (.defaulted (.int32 _))
    |>.and (.defaulted (.int32 _))
    |>.and (.defaulted (.int32 _))).record rfl rfl (by decide)

theorem ProxyIngress.keeps (x : ProxyIngress) : codec.Keeps form x :=
  (Fields.keeps_of _ _ |>.and (.defaulted (.text _))).record rfl rfl (by decide)

theorem Ingresses.keeps (x : Ingresses) : codec.Keeps form x :=
  (Fields.keeps_of _ _
    |>.and (.defaulted (RouterIngress.keeps _))
    |>.and (.defaulted (ProxyIngress.keeps _))
    |>.and (.defaulted (ProxyIngress.keeps _))).record rfl rfl (by decide)

theorem ControllerSettings.keeps (x : ControllerSettings) : codec.Keeps form x :=
  (Fields.keeps_of _ _
    |>.and (.defaulted (.text _))
    |>.and (.defaulted (.int32 _))
    |>.and (.defaulted (.text _))
    |>.and (.defaulted (.text _))
    |>.and (.defaulted (.text _))
    |>.and (.defaulted (.text _))).record rfl rfl (by decide)

theorem Spec.keeps (x : Spec) : codec.Keeps form x :=
  (Fields.keeps_of _ _
    |>.and (.about (.defaulted (Replicas.keeps _)))
    |>.and (.about (.defaulted (Images.keeps _)))
    |>.and (.about (.defaulted (Database.keeps _)))
    |>.and (.about (.defaulted (Services.keeps _)))
    |>.and (.about (.required (User.keeps _)))
    |>.and (.about (.defaulted (Ingresses.keeps _)))
    |>.and (.about (.defaulted (ControllerSettings.keeps _)))).record rfl rfl (by decide)

theorem Condition.keeps {c : Condition}
    (readBack : ∀ t ∈ c.lastTransitionTime, Instant.parse? t.render = some t) : codec.Keeps form c :=
  (Fields.keeps_of _ _
    |>.and (.required (.text _))
    |>.and (.about (.required (.text _)))
    |>.and (.optional rfl fun t ht => .instant (readBack t ht))).record rfl rfl (by decide)

/-- A status is kept if the texts of its instants are read back. -/
theorem Status.keeps {s : Status}
    (readBack : ∀ c ∈ s.conditions, ∀ t ∈ c.lastTransitionTime, Instant.parse? t.render = some t) :
    codec.Keeps form s :=
  (Fields.keeps_of _ _
    |>.and (.about (.defaulted (.list fun c hc => Condition.keeps (readBack c hc))))).record rfl rfl
      (by decide)

end ControlPlane

namespace Management

def ControllerStatus.form : Form ControllerStatus :=
  .record [.required "status" ControllerStatus.status .text,
    .optional "timestamp" ControllerStatus.timestamp .int64,
    .optional "uptimeSec" ControllerStatus.uptimeSec .binary64]

def SignUp.form : Form SignUp :=
  .record [.required "firstName" SignUp.firstName .text, .required "lastName" SignUp.lastName .text,
    .required "email" SignUp.email .text, .required "password" SignUp.password .text]

def LogIn.form : Form LogIn :=
  .record [.required "email" LogIn.email .text, .required "password" LogIn.password .text]

def AccessToken.form : Form AccessToken := .record [.required "accessToken" AccessToken.accessToken .text]

def PasswordChange.form : Form PasswordChange :=
  .record [.required "oldPassword" PasswordChange.oldPassword .text,
    .required "newPassword" PasswordChange.newPassword .text]

def DefaultRouter.form : Form DefaultRouter :=
  .record [.required "host" DefaultRouter.host .text,
    .optional "messagingPort" DefaultRouter.messagingPort .int32,
    .optional "edgeRouterPort" DefaultRouter.edgeRouterPort .int32,
    .optional "interRouterPort" DefaultRouter.interRouterPort .int32]

theorem ControllerStatus.keeps (x : ControllerStatus) : codec.Keeps form x :=
  (Fields.keeps_of _ _
    |>.and (.required (.text _))
    |>.and (.optional rfl fun n _ => .int64 n)
    |>.and (.optional rfl fun x _ => .binary64 x)).record rfl rfl (by decide)

theorem SignUp.keeps (x : SignUp) : codec.Keeps form x :=
  (Fields.keeps_of _ _
    |>.and (.required (.text _))
    |>.and (.required (.text _))
    |>.and (.required (.text _))
    |>.and (.required (.text _))).record rfl rfl (by decide)

theorem LogIn.keeps (x : LogIn) : codec.Keeps form x :=
  (Fields.keeps_of _ _
    |>.and (.required (.text _))
    |>.and (.required (.text _))).record rfl rfl (by decide)

theorem AccessToken.keeps (x : AccessToken) : codec.Keeps form x :=
  (Fields.keeps_of _ _ |>.and (.required (.text _))).record rfl rfl (by decide)

theorem PasswordChange.keeps (x : PasswordChange) : codec.Keeps form x :=
  (Fields.keeps_of _ _
    |>.and (.required (.text _))
    |>.and (.required (.text _))).record rfl rfl (by decide)

theorem DefaultRouter.keeps (x : DefaultRouter) : codec.Keeps form x :=
  (Fields.keeps_of _ _
    |>.and (.required (.text _))
    |>.and (.optional rfl fun n _ => .int32 n)
    |>.and (.optional rfl fun n _ => .int32 n)
    |>.and (.optional rfl fun n _ => .int32 n)).record rfl rfl (by decide)

end Management

open ControlPlane Management

/-- No specification, no status and no message is lost by writing it. The instants of a status are taken
to be read back from their texts. -/
theorem codecs_lose_nothing :
    (∀ spec : Spec, Spec.codec.Lossless Spec.form spec) ∧
    (∀ status : Status,
      (∀ c ∈ status.conditions, ∀ t ∈ c.lastTransitionTime, Instant.parse? t.render = some t) →
      Status.codec.Lossless Status.form status) ∧
    (∀ report : ControllerStatus, ControllerStatus.codec.Lossless ControllerStatus.form report) ∧
    (∀ request : SignUp, SignUp.codec.Lossless SignUp.form request) ∧
    (∀ request : LogIn, LogIn.codec.Lossless LogIn.form request) ∧
    (∀ answer : AccessToken, AccessToken.codec.Lossless AccessToken.form answer) ∧
    (∀ request : PasswordChange, PasswordChange.codec.Lossless PasswordChange.form request) ∧
    (∀ router : DefaultRouter, DefaultRouter.codec.Lossless DefaultRouter.form router) :=
  ⟨fun x => (Spec.keeps x).lossless, fun _ readBack => (Status.keeps readBack).lossless,
    fun x => (ControllerStatus.keeps x).lossless, fun x => (SignUp.keeps x).lossless,
    fun x => (LogIn.keeps x).lossless, fun x => (AccessToken.keeps x).lossless,
    fun x => (PasswordChange.keeps x).lossless, fun x => (DefaultRouter.keeps x).lossless⟩

/-- A user is enough for a specification, whatever else an object tells; a status may be an array of
arrays. -/
theorem codecs_read_short_forms :
    let ada : User := ⟨"Ada", "Lovelace", "ada@edge.example", ⟨"c2VjcmV0"⟩⟩
    let noon : Instant := ⟨19723, 43200, 0⟩
    Spec.codec.decode (.obj [("tier", .num (.whole 3)), ("replicas", .obj [("router", .null)]),
        ("user", .arr [.str "Ada", .str "Lovelace", .str "ada@edge.example", .str "c2VjcmV0"])]) =
      some { user := ada } ∧
    Instant.parse? noon.render = some noon ∧
    Status.codec.decode (.arr [.arr [.arr [.str "ready", .str "True", .str "2024-01-01T12:00:00Z"]]]) =
      some ⟨[⟨"ready", "True", some noon⟩]⟩ := by
  intro ada noon
  have readBack : Instant.parse? noon.render = some noon := by decide +kernel
  refine ⟨?_, readBack, ?_⟩
  · refine (codecs_lose_nothing.1 { user := ada }).read _ (.inl ⟨_, rfl, ?_⟩)
    have standard : Replicas.form {} (.obj [("router", .null)]) := by
      refine .inl ⟨_, rfl, ?_⟩
      rw [List.forall_mem_singleton]
      exact .inr ⟨by simp [Json.valuesOf, Member.defaulted], rfl⟩
    have named : User.form ada
        (.arr [.str "Ada", .str "Lovelace", .str "ada@edge.example", .str "c2VjcmV0"]) :=
      Form.record_of_lined (.cons rfl (.cons rfl (.cons rfl (.cons rfl .nil))))
    simp only [List.forall_mem_cons]
    refine ⟨.inl ⟨_, ?_, standard⟩, .inr ⟨?_, rfl⟩, .inr ⟨?_, rfl⟩, .inr ⟨?_, rfl⟩, .inl ⟨_, ?_, named⟩,
      .inr ⟨?_, rfl⟩, .inr ⟨?_, rfl⟩, List.forall_mem_nil _⟩
    all_goals simp [Json.valuesOf, Member.defaulted, Member.required]
  · refine (codecs_lose_nothing.2.1 ⟨[⟨"ready", "True", some noon⟩]⟩ ?_).read _ ?_
    · intro c member t here
      obtain rfl := List.mem_singleton.1 member
      obtain rfl : noon = t := Option.some.inj here
      exact readBack
    · have text : noon.render = "2024-01-01T12:00:00Z" := by decide +kernel
      have condition : Condition.form ⟨"ready", "True", some noon⟩
          (.arr [.str "ready", .str "True", .str noon.render]) :=
        Form.record_of_lined (.cons rfl (.cons rfl (.cons rfl .nil)))
      rw [← text]
      exact Form.record_of_lined (.cons ⟨_, rfl, .cons condition .nil⟩ .nil)

end EdgePlane
