import ReplicaPorts.Cluster.Member

/-!
# What a service asks for

The ports of a service and how it is reached. It is read and written whole, so that what it asks for
beyond what the program cares about stays as it is when the service is replaced.
-/

set_option autoImplicit false

namespace ReplicaPorts.Cluster

open Json

/-! ## Ports -/

/-- Where a port of a service leads to in a pod. -/
inductive PortTarget where
  | number (port : Int32)
  | name (name : String)
  deriving DecidableEq

def PortTarget.ofJson? (j : Json) : Option PortTarget :=
  match j with
  | .string s => s.map .name
  | j => (int32? j).map .number

def PortTarget.toJson : PortTarget → Json
  | number n => int32 n
  | name s => .text s

/-- A port of a service. -/
structure ServicePort where
  name : Option String := none
  port : Int32 := 0
  targetPort : Option PortTarget := none
  nodePort : Option Int32 := none
  protocol : Option String := none
  appProtocol : Option String := none
  deriving DecidableEq

def ServicePort.ofJson? (j : Json) : Option ServicePort := do
  let j ← object? j
  return {
    name := ← nullable? "name" text? j
    port := (← nullable? "port" int32? j).getD 0
    targetPort := ← nullable? "targetPort" PortTarget.ofJson? j
    nodePort := ← nullable? "nodePort" int32? j
    protocol := ← nullable? "protocol" text? j
    appProtocol := ← nullable? "appProtocol" text? j }

def ServicePort.toJson (p : ServicePort) : Json := record [
  Member.unlessNone "appProtocol" .text p.appProtocol,
  Member.unlessNone "name" .text p.name,
  Member.unlessNone "nodePort" int32 p.nodePort,
  Member.always "port" (int32 p.port),
  Member.unlessNone "protocol" .text p.protocol,
  Member.unlessNone "targetPort" PortTarget.toJson p.targetPort]

/-! ## What a service asks for -/

/-- How long a client that is known by its address stays with one pod. -/
structure ClientAffinity where
  timeoutSeconds : Option Int32 := none
  deriving DecidableEq

def ClientAffinity.ofJson? (j : Json) : Option ClientAffinity := do
  let j ← object? j
  return { timeoutSeconds := ← nullable? "timeoutSeconds" int32? j }

def ClientAffinity.toJson (a : ClientAffinity) : Json :=
  record [Member.unlessNone "timeoutSeconds" int32 a.timeoutSeconds]

/-- How clients stay with one pod. -/
structure SessionAffinity where
  clientIP : Option ClientAffinity := none
  deriving DecidableEq

def SessionAffinity.ofJson? (j : Json) : Option SessionAffinity := do
  let j ← object? j
  return { clientIP := ← nullable? "clientIP" ClientAffinity.ofJson? j }

def SessionAffinity.toJson (a : SessionAffinity) : Json :=
  record [Member.unlessNone "clientIP" ClientAffinity.toJson a.clientIP]

/-- What a service asks for. -/
structure ServiceSpec where
  type : Option String := none
  selector : Option Labels := none
  ports : Option (List ServicePort) := none
  externalTrafficPolicy : Option String := none
  internalTrafficPolicy : Option String := none
  trafficDistribution : Option String := none
  publishNotReadyAddresses : Option Bool := none
  clusterIP : Option String := none
  clusterIPs : Option (List String) := none
  externalIPs : Option (List String) := none
  externalName : Option String := none
  ipFamilies : Option (List String) := none
  ipFamilyPolicy : Option String := none
  sessionAffinity : Option String := none
  sessionAffinityConfig : Option SessionAffinity := none
  allocateLoadBalancerNodePorts : Option Bool := none
  /-- The port on every machine that tells whether it can take traffic. -/
  healthCheckNodePort : Option Int32 := none
  loadBalancerClass : Option String := none
  loadBalancerIP : Option String := none
  loadBalancerSourceRanges : Option (List String) := none
  deriving DecidableEq

def ServiceSpec.ofJson? (j : Json) : Option ServiceSpec := do
  let j ← object? j
  return {
    type := ← nullable? "type" text? j
    selector := ← nullable? "selector" (keyed? text?) j
    ports := ← nullable? "ports" (list? ServicePort.ofJson?) j
    externalTrafficPolicy := ← nullable? "externalTrafficPolicy" text? j
    internalTrafficPolicy := ← nullable? "internalTrafficPolicy" text? j
    trafficDistribution := ← nullable? "trafficDistribution" text? j
    publishNotReadyAddresses := ← nullable? "publishNotReadyAddresses" bool? j
    clusterIP := ← nullable? "clusterIP" text? j
    clusterIPs := ← nullable? "clusterIPs" (list? text?) j
    externalIPs := ← nullable? "externalIPs" (list? text?) j
    externalName := ← nullable? "externalName" text? j
    ipFamilies := ← nullable? "ipFamilies" (list? text?) j
    ipFamilyPolicy := ← nullable? "ipFamilyPolicy" text? j
    sessionAffinity := ← nullable? "sessionAffinity" text? j
    sessionAffinityConfig := ← nullable? "sessionAffinityConfig" SessionAffinity.ofJson? j
    allocateLoadBalancerNodePorts := ← nullable? "allocateLoadBalancerNodePorts" bool? j
    healthCheckNodePort := ← nullable? "healthCheckNodePort" int32? j
    loadBalancerClass := ← nullable? "loadBalancerClass" text? j
    loadBalancerIP := ← nullable? "loadBalancerIP" text? j
    loadBalancerSourceRanges := ← nullable? "loadBalancerSourceRanges" (list? text?) j }

def ServiceSpec.toJson (s : ServiceSpec) : Json := record [
  Member.unlessNone "allocateLoadBalancerNodePorts" .bool s.allocateLoadBalancerNodePorts,
  Member.unlessNone "clusterIP" .text s.clusterIP,
  Member.unlessNone "clusterIPs" .texts s.clusterIPs,
  Member.unlessNone "externalIPs" .texts s.externalIPs,
  Member.unlessNone "externalName" .text s.externalName,
  Member.unlessNone "externalTrafficPolicy" .text s.externalTrafficPolicy,
  Member.unlessNone "healthCheckNodePort" int32 s.healthCheckNodePort,
  Member.unlessNone "internalTrafficPolicy" .text s.internalTrafficPolicy,
  Member.unlessNone "ipFamilies" .texts s.ipFamilies,
  Member.unlessNone "ipFamilyPolicy" .text s.ipFamilyPolicy,
  Member.unlessNone "loadBalancerClass" .text s.loadBalancerClass,
  Member.unlessNone "loadBalancerIP" .text s.loadBalancerIP,
  Member.unlessNone "loadBalancerSourceRanges" .texts s.loadBalancerSourceRanges,
  listMember "ports" ServicePort.toJson s.ports,
  Member.unlessNone "publishNotReadyAddresses" .bool s.publishNotReadyAddresses,
  labelsMember "selector" s.selector,
  Member.unlessNone "sessionAffinity" .text s.sessionAffinity,
  Member.unlessNone "sessionAffinityConfig" SessionAffinity.toJson s.sessionAffinityConfig,
  Member.unlessNone "trafficDistribution" .text s.trafficDistribution,
  Member.unlessNone "type" .text s.type]

end ReplicaPorts.Cluster
