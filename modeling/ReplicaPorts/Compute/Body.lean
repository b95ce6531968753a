import ReplicaPorts.Compute.Call
import ReplicaPorts.Compute.Firewall
import ReplicaPorts.Compute.Scope

/-!
# Bodies of requests

What a client sends to the Compute API to create a resource, to give a firewall other ports, and to
attach and detach endpoints.
-/

set_option autoImplicit false

namespace ReplicaPorts.Compute.Body

def empty : Json := .named []

def purpose : String := "Managed by psc-portmapper"

/-- The clause that lets TCP through on some ports. -/
def tcpClause (ports : List Int32) : AllowClause where
  protocol := some "tcp"
  ports := portTexts ports

def creation (s : Scope) (name : String) : Design → Json
  | .firewall ports => Firewall.toJson {
      name
      description := some purpose
      network := some s.network
      direction := some "INGRESS"
      priority := some 1000
      allowed := [tcpClause ports] }
  | .group => EndpointGroup.toJson {
      name
      endpointType := some portMappingType
      network := some s.network
      subnetwork := some s.subnetwork
      annotations := s.annotations }
  | .backend group => BackendService.toJson {
      name
      network := some s.network
      protocol := some "TCP"
      loadBalancingScheme := some "INTERNAL"
      backends := [{ group := Path.resource s.place .group group
                     balancingMode := some "CONNECTION" }] }
  | .rule backend address globalAccess => ForwardingRule.toJson {
      name, address
      protocol := some "TCP"
      allowGlobalAccess := if globalAccess then some true else none
      allPorts := some true
      backendService := some (Path.resource s.place .backend backend)
      network := some s.network
      subnetwork := some s.subnetwork
      loadBalancingScheme := some "INTERNAL" }
  | .attachment rulePath consumers natSubnets => ServiceAttachment.toJson {
      name, natSubnets
      producerForwardingRule := some rulePath
      connectionPreference := some "ACCEPT_MANUAL"
      consumerAcceptLists := consumers
      enableProxyProtocol := some false }

/-- What is sent to give a firewall other ports. -/
def portsUpdate (ports : List Int32) : Json :=
  .named [("allowed", .array [(tcpClause ports).toJson])]

/-- What is sent to attach or detach endpoints. -/
def endpoints (mappings : List PortMapping) : Json :=
  .named [("networkEndpoints", .array (mappings.map fun m => (NetworkEndpoint.ofMapping m).toJson))]

end ReplicaPorts.Compute.Body
