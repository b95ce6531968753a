import ReplicaPorts.Cluster.Member
import ReplicaPorts.Cluster.Timestamp

/-!
# What a service tells

The load balancer of a service and the conditions that it is in.
-/

set_option autoImplicit false

namespace ReplicaPorts.Cluster

open Json

/-! ## Load balancers -/

/-- How a port of a load balancer is doing. -/
structure PortStatus where
  error : Option String := none
  port : Int32 := 0
  protocol : String := ""
  deriving DecidableEq

def PortStatus.ofJson? (j : Json) : Option PortStatus := do
  let j ← object? j
  return {
    error := ← nullable? "error" text? j
    port := (← nullable? "port" int32? j).getD 0
    protocol := (← nullable? "protocol" text? j).getD "" }

def PortStatus.toJson (p : PortStatus) : Json := record [
  Member.unlessNone "error" .text p.error,
  Member.always "port" (int32 p.port),
  Member.always "protocol" (.text p.protocol)]

/-- A way in through a load balancer. -/
structure Ingress where
  hostname : Option String := none
  ip : Option String := none
  ipMode : Option String := none
  ports : Option (List PortStatus) := none
  deriving DecidableEq

def Ingress.ofJson? (j : Json) : Option Ingress := do
  let j ← object? j
  return {
    hostname := ← nullable? "hostname" text? j
    ip := ← nullable? "ip" text? j
    ipMode := ← nullable? "ipMode" text? j
    ports := ← nullable? "ports" (list? PortStatus.ofJson?) j }

def Ingress.toJson (i : Ingress) : Json := record [
  Member.unlessNone "hostname" .text i.hostname,
  Member.unlessNone "ip" .text i.ip,
  Member.unlessNone "ipMode" .text i.ipMode,
  listMember "ports" PortStatus.toJson i.ports]

/-- The load balancer of a service. -/
structure LoadBalancer where
  ingress : Option (List Ingress) := none
  deriving DecidableEq

def LoadBalancer.ofJson? (j : Json) : Option LoadBalancer := do
  let j ← object? j
  return { ingress := ← nullable? "ingress" (list? Ingress.ofJson?) j }

def LoadBalancer.toJson (b : LoadBalancer) : Json :=
  record [listMember "ingress" Ingress.toJson b.ingress]

/-! ## Conditions -/

/-- A condition of a service. -/
structure Condition where
  type : String := ""
  status : String := ""
  lastTransitionTime : Timestamp := .epoch
  reason : String := ""
  message : String := ""
  observedGeneration : Option Int64 := none
  deriving DecidableEq

def Condition.ofJson? (j : Json) : Option Condition := do
  let j ← object? j
  return {
    type := (← nullable? "type" text? j).getD ""
    status := (← nullable? "status" text? j).getD ""
    lastTransitionTime :=
      (← nullable? "lastTransitionTime" Timestamp.ofJson? j).getD .epoch
    reason := (← nullable? "reason" text? j).getD ""
    message := (← nullable? "message" text? j).getD ""
    observedGeneration := ← nullable? "observedGeneration" int64? j }

def Condition.toJson (c : Condition) : Json := record [
  Member.always "lastTransitionTime" c.lastTransitionTime.toJson,
  Member.always "message" (.text c.message),
  Member.unlessNone "observedGeneration" int64 c.observedGeneration,
  Member.always "reason" (.text c.reason),
  Member.always "status" (.text c.status),
  Member.always "type" (.text c.type)]

/-! ## All of it -/

/-- What a service tells. -/
structure ServiceStatus where
  conditions : Option (List Condition) := none
  loadBalancer : Option LoadBalancer := none
  deriving DecidableEq

def ServiceStatus.ofJson? (j : Json) : Option ServiceStatus := do
  let j ← object? j
  return {
    conditions := ← nullable? "conditions" (list? Condition.ofJson?) j
    loadBalancer := ← nullable? "loadBalancer" LoadBalancer.ofJson? j }

def ServiceStatus.toJson (s : ServiceStatus) : Json := record [
  listMember "conditions" Condition.toJson s.conditions,
  Member.unlessNone "loadBalancer" LoadBalancer.toJson s.loadBalancer]

end ReplicaPorts.Cluster
