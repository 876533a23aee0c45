import EdgePlane.Component.Controller
import EdgePlane.Component.Router
import EdgePlane.Proofs.Numerals
import Mathlib.Data.List.Nodup

/-!
# Services and the pods behind them

The labels and the ports of a component stand in several of its objects. Every service leads to the pods
of the component's deployment and to the ports that it announces. Whether those are the ports that the
pods serve is another matter: the viewer's port is told to the controller from the configuration, but
announced as a constant.
-/

namespace EdgePlane

open Kubernetes Text

namespace Kubernetes

/-- The ports that a service announces. -/
def Service.announced (s : Service) : List ServicePort := (s.spec.bind (·.ports)).getD []

/-- The labels that the pods of a deployment bear. -/
def Deployment.podLabels? (d : Deployment) : Option (Dict String String) :=
  d.spec.bind fun spec => spec.template.metadata.bind (·.labels)

/-- The containers in the pods of a deployment. -/
def Deployment.containers (d : Deployment) : List Container :=
  (d.spec.bind fun spec => spec.template.spec.map (·.containers)).getD []

/-- The value that a container finds for a variable. Of several that are given the last counts. -/
def Container.setting? (c : Container) (name : String) : Option String :=
  ((c.env.getD []).reverse.find? (·.name == name)).bind (·.value)

/-- The port that answers whether a container is ready. -/
def Container.probedPort? (c : Container) : Option IntOrString :=
  (c.readinessProbe.bind (·.httpGet)).map (·.port)

/-- That a service leads to the pods that a deployment starts, and to each of its ports by the same
number, under a name of its own. -/
structure Service.LeadsTo (s : Service) (d : Deployment) : Prop where
  beside : s.metadata.namespaceName = d.metadata.namespaceName
  selects : s.spec.bind (·.selector) = d.podLabels?
  owned : d.spec.bind (·.selector.matchLabels) = d.podLabels?
  labelled : d.podLabels?.isSome
  named : ∀ p ∈ s.announced, p.name.isSome
  distinct : (s.announced.map (·.name)).Nodup
  targets : ∀ p ∈ s.announced, p.targetPort = some (.int p.port)

end Kubernetes

namespace Component

/-- The places of ports make their names distinct, even for a port that is announced twice. -/
theorem nodup_servicePort_names (service : String) (ports : List Int32) :
    ((ports.zipIdx.map fun p => servicePort service p.1 p.2).map (·.name)).Nodup := by
  have byPlace : (ports.zipIdx.map fun p => servicePort service p.1 p.2).map (·.name) =
      (ports.zipIdx.map Prod.snd).map fun place => some (service ++ decimal place) := by
    rw [List.map_map, List.map_map]
    rfl
  rw [byPlace, List.zipIdx_map_snd]
  refine List.Nodup.map (fun i j same => ?_) List.nodup_range'
  exact decimal_injective ((String.append_right_inj service).1 (Option.some.inj same))

/-- The service of a component leads to its deployment. -/
theorem serviceOf_leadsTo (c : Component) (ns : String) (definition : ServiceDefinition) :
    (c.serviceOf ns definition).LeadsTo (c.deployment ns) where
  beside := rfl
  selects := rfl
  owned := rfl
  labelled := rfl
  named p announced := by
    obtain ⟨place, -, rfl⟩ := List.mem_map.1 announced
    rfl
  distinct := nodup_servicePort_names definition.name definition.ports
  targets p announced := by
    obtain ⟨place, -, rfl⟩ := List.mem_map.1 announced
    rfl

/-- A service announces the ports of its definition. -/
theorem announced_serviceOf (c : Component) (ns : String) (definition : ServiceDefinition) :
    (c.serviceOf ns definition).announced.map (·.port) = definition.ports := by
  have numbers : (c.serviceOf ns definition).announced.map (·.port) =
      definition.ports.zipIdx.map Prod.fst := List.map_map ..
  rw [numbers, List.zipIdx_map_fst]

end Component

namespace Controller

/-- That a container serves a port of the controller: the interface, for which it is probed, or the
viewer, for which it is told the port. -/
def Serves (c : Container) (port : Int32) : Prop :=
  c.probedPort? = some (.int port) ∨ c.setting? "VIEWER_PORT" = some (decimalInt port.toInt)

theorem setting?_viewerPort (config : Config) :
    (container config).setting? "VIEWER_PORT" = some (decimalInt config.viewer.toInt) := by
  simp only [Container.setting?, container, environment, Option.getD_some, List.reverse_append]
  by_cases noUrl : config.ecnViewerUrl.isEmpty
  · simp [noUrl, EnvVariable.fixed]
  · simp [noUrl, EnvVariable.fixed]

theorem serves_container_iff (config : Config) (port : Int32) :
    Serves (container config) port ↔ port = apiPort ∨ port = config.viewer := by
  have probed : (container config).probedPort? = some (.int apiPort) := rfl
  rw [Serves, probed, setting?_viewerPort]
  constructor
  · rintro (api | viewer)
    · exact .inl (IntOrString.int.inj (Option.some.inj api)).symm
    · exact .inr (Int32.toInt_inj.1 (decimalInt_injective (Option.some.inj viewer))).symm
  · rintro (rfl | rfl)
    · exact .inl rfl
    · exact .inr rfl

/-- The viewer is told the constant exactly if the configuration asks for no port or for that one. -/
theorem viewer_eq_viewerPort_iff (config : Config) :
    config.viewer = viewerPort ↔ config.ecnViewerPort = 0 ∨ config.ecnViewerPort = viewerPort := by
  by_cases unset : config.ecnViewerPort = 0
  · simp [Config.viewer, unset]
  · simp [Config.viewer, unset]

/-- The constant ports are the ones that are served exactly if the viewer serves the constant one. -/
theorem forall_serves_iff (config : Config) :
    (∀ port, port ∈ [apiPort, viewerPort] ↔ Serves (container config) port) ↔
      config.viewer = viewerPort := by
  simp only [List.mem_cons, List.not_mem_nil, or_false, serves_container_iff]
  constructor
  · intro same
    rcases (same viewerPort).1 (.inr rfl) with api | viewer
    · exact absurd api (by decide)
    · exact viewer.symm
  · intro viewer port
    rw [viewer]

/-- The services of the router and of the controller lead to the pods of their deployments, and the
controller's service to the port that the pods are probed at. Its ports are the ones that the pods
serve exactly if the configuration has no port for the viewer other than the constant. -/
theorem services_leadTo_pods (ns : String) :
    (∀ config : Router.Config, ∃ service,
      (Router.component config).serviceObject ns = some service ∧
      service.LeadsTo ((Router.component config).deployment ns)) ∧
    ∀ config : Config, ∃ service pod,
      (component config).serviceObject ns = some service ∧
      service.LeadsTo ((component config).deployment ns) ∧
      ((component config).deployment ns).containers = [pod] ∧
      (∃ p ∈ service.announced, pod.probedPort? = some (.int p.port)) ∧
      ((∀ port, port ∈ service.announced.map (·.port) ↔ Serves pod port) ↔
        config.ecnViewerPort = 0 ∨ config.ecnViewerPort = viewerPort) := by
  refine ⟨fun config => ⟨_, rfl, Component.serviceOf_leadsTo ..⟩,
    fun config => ⟨_, container config, rfl, Component.serviceOf_leadsTo .., rfl,
      ⟨Component.servicePort name apiPort 0, List.mem_cons_self, rfl⟩, ?_⟩⟩
  rw [Component.announced_serviceOf, forall_serves_iff, viewer_eq_viewerPort_iff]

/-- A controller whose viewer is to serve port 8080. -/
def viewerElsewhere : Config := { ecnViewerPort := 8080 }

/-- The pods are told to serve the viewer at 8080, where no service leads. -/
theorem viewerElsewhere_unannounced :
    ∃ service pod, (component viewerElsewhere).serviceObject "ns" = some service ∧
      ((component viewerElsewhere).deployment "ns").containers = [pod] ∧
      pod.setting? "VIEWER_PORT" = some (decimalInt 8080) ∧
      8080 ∉ service.announced.map (·.port) :=
  ⟨_, container viewerElsewhere, rfl, rfl, setting?_viewerPort viewerElsewhere, by decide⟩

end Controller

end EdgePlane
