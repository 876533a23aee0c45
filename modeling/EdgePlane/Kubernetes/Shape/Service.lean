import EdgePlane.Kubernetes.Shape.Metadata

/-!
# Shapes of services

Services with the state of their load balancers.
-/

namespace EdgePlane.Kubernetes

open Json

/-- A port of a service. -/
def ServicePort.shape : Shape :=
  .record [("appProtocol", .text), ("name", .text), ("nodePort", .int32), ("protocol", .text),
    ("targetPort", .intOrText)] [("port", .int32)]

/-- What a service is meant to be. -/
def ServiceSpec.shape : Shape :=
  .record [("allocateLoadBalancerNodePorts", .bool), ("clusterIP", .text), ("clusterIPs", texts),
    ("externalIPs", texts), ("externalName", .text), ("externalTrafficPolicy", .text),
    ("healthCheckNodePort", .int32), ("internalTrafficPolicy", .text), ("ipFamilies", texts),
    ("ipFamilyPolicy", .text), ("loadBalancerClass", .text), ("loadBalancerIP", .text),
    ("loadBalancerSourceRanges", texts), ("ports", .list ServicePort.shape),
    ("publishNotReadyAddresses", .bool), ("selector", textsByName), ("sessionAffinity", .text),
    ("sessionAffinityConfig",
      .record [("clientIP", .record [("timeoutSeconds", .int32)] [])] []),
    ("trafficDistribution", .text), ("type", .text)] []

/-- An address of a load balancer. -/
def Ingress.shape : Shape :=
  .record [("hostname", .text), ("ip", .text), ("ipMode", .text),
    ("ports", .list (.record [("error", .text)] [("port", .int32), ("protocol", .text)]))] []

/-- The addresses of a load balancer. -/
def LoadBalancer.shape : Shape := .record [("ingress", .list Ingress.shape)] []

/-- What is reported of a service. -/
def ServiceStatus.shape : Shape :=
  .record [("conditions", .list condition), ("loadBalancer", LoadBalancer.shape)] []

/-- A service and what is reported of it. -/
def Service.shape : Shape :=
  objectShape [("spec", ServiceSpec.shape), ("status", ServiceStatus.shape)] []

end EdgePlane.Kubernetes
