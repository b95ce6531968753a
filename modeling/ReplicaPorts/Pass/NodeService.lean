import ReplicaPorts.Pass.Basic

/-!
# The exposure service

Every named port is open on every machine through one service, the exposure service of the
workload. `NodeService.wanted` says what it should be and `NodeService.deviates` whether one that
exists is out of line in anything that matters; `NodeService.mended` brings it back and leaves all
else as it was. Ports are compared in any order, and a port without a protocol is one of TCP.
-/

set_option autoImplicit false

namespace ReplicaPorts.Pass.NodeService

open Cluster

/-- The label that says who manages a service. -/
def managerLabel : String := "app.kubernetes.io/managed-by"

/-- Who manages exposure services. -/
def manager : String := "psc-portmapper"

/-- The type of a service that is open on every machine. -/
def serviceType : String := "NodePort"

/-- The policy by which traffic stays on the machine that it came to. -/
def trafficPolicy : String := "Local"

/-- The protocol of every port. -/
def protocol : String := "TCP"

/-- The reference to a workload as the owner, if it has a name and an identity. -/
def ownerOf? (w : StatefulSet) : Option OwnerReference :=
  match w.metadata.name, w.metadata.uid with
  | some name, some uid =>
    some { apiVersion := "apps/v1", kind := "StatefulSet", name, uid, controller := some true }
  | _, _ => none

/-- The port of a service for one named port. -/
def portOf (name : String) (e : PortEntry) : ServicePort where
  name := some name
  port := e.containerPort
  targetPort := some (.number e.containerPort)
  nodePort := some e.nodePort
  protocol := some protocol

/-- What the exposure service of a workload should ask for. -/
def wantedSpec (selector : Labels) (p : Payload) : ServiceSpec where
  type := some serviceType
  externalTrafficPolicy := some trafficPolicy
  selector := some selector
  ports := some (p.ports.toList.map fun e => portOf e.1 e.2)

/-- The exposure service that a workload should have. -/
def wanted (w : StatefulSet) (key : ObjectKey) (selector : Labels) (p : Payload) : Service where
  metadata := {
    name := some key.name
    space := some key.space
    labels := some (Keyed.ofList [(managerLabel, manager)])
    ownerReferences := (ownerOf? w).map ([·]) }
  spec := some (wantedSpec selector p)

/-! ## Comparing -/

/-- What of a port is compared. -/
structure PortTraits where
  name : Option String
  port : Int32
  targetPort : Option PortTarget
  nodePort : Option Int32
  protocol : String
  deriving DecidableEq

/-- What is compared of a port. -/
def PortTraits.of (p : ServicePort) : PortTraits where
  name := p.name
  port := p.port
  targetPort := p.targetPort
  nodePort := p.nodePort
  protocol := p.protocol.getD NodeService.protocol

/-- The order of values that may be missing: missing ones come first. -/
def optionOrd {α : Type} [Ord α] : Option α → Option α → Ordering
  | none, none => .eq
  | none, some _ => .lt
  | some _, none => .gt
  | some a, some b => compare a b

/-- Whether a port comes no later than another: by its name, its port and its node port. -/
def PortTraits.le (a b : PortTraits) : Bool :=
  ((optionOrd a.name b.name).then
    ((compare a.port b.port).then (optionOrd a.nodePort b.nodePort))).isLE

/-- What is compared of the ports of a service, in an order that does not depend on theirs. -/
def portTraits (s : Service) : List PortTraits :=
  (((s.spec.bind (·.ports)).getD []).map PortTraits.of).mergeSort PortTraits.le

/-- Whether an existing service is out of line with a wanted one. -/
def deviates (existing wanted : Service) : Bool :=
  let observed := existing.spec.getD {}
  let goal := wanted.spec.getD {}
  existing.metadata.label? managerLabel != wanted.metadata.label? managerLabel
    || observed.type != goal.type
    || observed.externalTrafficPolicy != goal.externalTrafficPolicy
    || observed.selector != goal.selector
    || portTraits existing != portTraits wanted

/-! ## Repairing -/

/-- An existing service brought in line with a wanted one. -/
def mended (existing wanted : Service) : Service :=
  let goal := wanted.spec.getD {}
  { existing with
    metadata := { existing.metadata with
      labels := some ((existing.metadata.labels.getD ∅).insert managerLabel manager)
      ownerReferences := existing.metadata.ownerReferences <|> wanted.metadata.ownerReferences }
    spec := some { existing.spec.getD {} with
      type := goal.type
      externalTrafficPolicy := goal.externalTrafficPolicy
      selector := goal.selector
      ports := goal.ports } }

/-- Creates the exposure service if it is missing and repairs it if it is out of line. -/
def provide (key : ObjectKey) (wanted : Service) : Pass Unit := do
  match ← cluster (.getService key) with
  | none => cluster (.createService key.space wanted)
  | some existing =>
    if deviates existing wanted then
      cluster (.updateService key.space (mended existing wanted))

end ReplicaPorts.Pass.NodeService
