import ReplicaPorts.Compute.Provision
import ReplicaPorts.Pass.Basic
import ReplicaPorts.Payload.Names

/-!
# The resources of a workload

They are brought about in the order in which one needs the one before:
firewall, endpoint group, backend service, the endpoints of the group, forwarding rule, service
attachment. Endpoints that are not wanted are detached before those that are missing are attached,
so that a port is free again before it is given away.
-/

set_option autoImplicit false

namespace ReplicaPorts

open Compute

/-- A consumer as the Compute API names it. -/
def Consumer.limit (c : Consumer) : ConsumerLimit where
  project := c.project
  network := c.network
  connectionLimit := c.connectionLimit

namespace Pass

/-- Detaches the endpoints of a group that are not wanted and attaches those that are missing. -/
def alignEndpoints (group : String) (desired : List PortMapping) :
    Program Compute.calls (Except Compute.Error Unit) := do
  match ← request (.listEndpoints group) with
  | .error e => return .error e
  | .ok actual =>
    let detached ←
      if PortMapping.surplus desired actual = [] then pure (.ok ())
      else request (.detachEndpoints group (PortMapping.surplus desired actual))
    match detached with
    | .error e => return .error e
    | .ok () =>
      if PortMapping.lacking desired actual = [] then return .ok ()
      else request (.attachEndpoints group (PortMapping.lacking desired actual))

/-- Brings one resource about. -/
def bring (s : Step) (name : String) (design : Design) : Pass Unit :=
  during s do let _ ← compute (Compute.provide name design)

/-- Brings the resources of a workload about. -/
def bringAll (place : Location) (names : Names) (p : Payload) (mappings : List PortMapping) :
    Pass Unit := do
  bring .firewall names.firewall (.firewall p.nodePorts)
  bring .group names.group .group
  bring .backend names.backend (.backend names.group)
  during .endpoints (compute (alignEndpoints names.group mappings))
  bring .rule names.rule (.rule names.backend p.address (p.globalAccess.getD false))
  bring .attachment names.attachment
    (.attachment (Path.resource place .rule names.rule) (p.consumers.map (·.limit)) p.natSubnets)

/-! ## Taking down -/

/-- Deletes one resource; a missing one is no error. -/
def remove (s : Step) (kind : Kind) (name : String) : Pass Unit :=
  during s do let _ ← compute (Compute.retire kind name)

/-- Deletes the resources of a workload, the last one first. -/
def removeAll (names : Names) : Pass Unit := do
  remove .attachment .attachment names.attachment
  remove .rule .rule names.rule
  remove .backend .backend names.backend
  remove .group .group names.group
  remove .firewall .firewall names.firewall

end Pass

end ReplicaPorts
