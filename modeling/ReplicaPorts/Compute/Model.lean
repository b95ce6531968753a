import ReplicaPorts.Json.Decode

/-!
# Resources of the Compute API

The resources that expose a workload, with the fields that are read or written here, and their JSON
form. Reading and writing agree: what `toJson` writes, `ofJson?` reads back, also among members that
are not known here. A field without a value is left out.
-/

set_option autoImplicit false

namespace ReplicaPorts.Compute

open Json

/-- The endpoint type of a group that maps ports to ports of machines. -/
def portMappingType : String := "GCE_VM_IP_PORTMAP"

/-- One registration of a port-mapping group: what arrives on `port` goes to `instancePort` of the
machine at `instancePath`. -/
structure PortMapping where
  port : Int32
  /-- The machine, as `projects/…/zones/…/instances/…`. -/
  instancePath : String
  instancePort : Int32
  deriving DecidableEq

/-! ## Firewalls -/

/-- What a firewall lets through: one protocol on some ports. -/
structure AllowClause where
  protocol : Option String := none
  ports : List String := []
  deriving DecidableEq

def AllowClause.fields : List String := ["IPProtocol", "ports"]

def AllowClause.ofJson? (j : Json) : Option AllowClause := do
  let r ← j.fields? fields
  return {
    protocol := ← r.optional? "IPProtocol" text?
    ports := ← r.withDefault? "ports" (list? text?) [] }

def AllowClause.toJson (a : AllowClause) : Json := record [
  Member.unlessNone "IPProtocol" .text a.protocol,
  Member.unlessNil "ports" .text a.ports]

/-- A firewall rule. -/
structure Firewall where
  name : String
  description : Option String := none
  network : Option String := none
  direction : Option String := none
  priority : Option Int32 := none
  allowed : List AllowClause := []
  sourceRanges : List String := []
  selfLink : Option String := none
  deriving DecidableEq

def Firewall.fields : List String :=
  ["name", "description", "network", "direction", "priority", "allowed", "sourceRanges", "selfLink"]

def Firewall.ofJson? (j : Json) : Option Firewall := do
  let r ← j.fields? fields
  return {
    name := ← r.required? "name" text?
    description := ← r.optional? "description" text?
    network := ← r.optional? "network" text?
    direction := ← r.optional? "direction" text?
    priority := ← r.optional? "priority" int32?
    allowed := ← r.withDefault? "allowed" (list? AllowClause.ofJson?) []
    sourceRanges := ← r.withDefault? "sourceRanges" (list? text?) []
    selfLink := ← r.optional? "selfLink" text? }

def Firewall.toJson (f : Firewall) : Json := record [
  Member.always "name" (.text f.name),
  Member.unlessNone "description" .text f.description,
  Member.unlessNone "network" .text f.network,
  Member.unlessNone "direction" .text f.direction,
  Member.unlessNone "priority" int32 f.priority,
  Member.unlessNil "allowed" AllowClause.toJson f.allowed,
  Member.unlessNil "sourceRanges" .text f.sourceRanges,
  Member.unlessNone "selfLink" .text f.selfLink]

/-! ## Endpoint groups -/

/-- A regional group of network endpoints. -/
structure EndpointGroup where
  name : String
  endpointType : Option String := none
  network : Option String := none
  subnetwork : Option String := none
  annotations : Keyed String String := ∅
  size : Option UInt32 := none
  selfLink : Option String := none
  deriving DecidableEq

def EndpointGroup.fields : List String :=
  ["name", "networkEndpointType", "network", "subnetwork", "annotations", "size", "selfLink"]

def EndpointGroup.ofJson? (j : Json) : Option EndpointGroup := do
  let r ← j.fields? fields
  return {
    name := ← r.required? "name" text?
    endpointType := ← r.optional? "networkEndpointType" text?
    network := ← r.optional? "network" text?
    subnetwork := ← r.optional? "subnetwork" text?
    annotations := ← r.withDefault? "annotations" (keyed? text?) ∅
    size := ← r.optional? "size" uint32?
    selfLink := ← r.optional? "selfLink" text? }

def EndpointGroup.toJson (g : EndpointGroup) : Json := record [
  Member.always "name" (.text g.name),
  Member.unlessNone "networkEndpointType" .text g.endpointType,
  Member.unlessNone "network" .text g.network,
  Member.unlessNone "subnetwork" .text g.subnetwork,
  Member.unlessEmpty "annotations" .text g.annotations,
  Member.unlessNone "size" uint32 g.size,
  Member.unlessNone "selfLink" .text g.selfLink]

/-- An endpoint as it is attached, detached and listed. -/
structure NetworkEndpoint where
  instancePath : Option String := none
  port : Option Int32 := none
  clientDestinationPort : Option Int32 := none
  annotations : Keyed String String := ∅
  deriving DecidableEq

def NetworkEndpoint.fields : List String :=
  ["instance", "port", "clientDestinationPort", "annotations"]

def NetworkEndpoint.ofJson? (j : Json) : Option NetworkEndpoint := do
  let r ← j.fields? fields
  return {
    instancePath := ← r.optional? "instance" text?
    port := ← r.optional? "port" int32?
    clientDestinationPort := ← r.optional? "clientDestinationPort" int32?
    annotations := ← r.withDefault? "annotations" (keyed? text?) ∅ }

def NetworkEndpoint.toJson (e : NetworkEndpoint) : Json := record [
  Member.unlessNone "instance" .text e.instancePath,
  Member.unlessNone "port" int32 e.port,
  Member.unlessNone "clientDestinationPort" int32 e.clientDestinationPort,
  Member.unlessEmpty "annotations" .text e.annotations]

def NetworkEndpoint.ofMapping (m : PortMapping) : NetworkEndpoint where
  instancePath := some m.instancePath
  port := some m.instancePort
  clientDestinationPort := some m.port

/-- One page of a list of endpoints. -/
structure EndpointPage where
  items : List NetworkEndpoint := []
  nextPageToken : Option String := none
  deriving DecidableEq

/-- Reads an item of a page: the endpoint in it. -/
def EndpointPage.item? (j : Json) : Option NetworkEndpoint := do
  let r ← j.fields? ["networkEndpoint"]
  r.required? "networkEndpoint" NetworkEndpoint.ofJson?

def EndpointPage.ofJson? (j : Json) : Option EndpointPage := do
  let r ← j.fields? ["items", "nextPageToken"]
  return {
    items := ← r.withDefault? "items" (list? EndpointPage.item?) []
    nextPageToken := ← r.optional? "nextPageToken" text? }

/-! ## Backend services -/

/-- A group behind a backend service. -/
structure Backend where
  group : String
  balancingMode : Option String := none
  deriving DecidableEq

def Backend.ofJson? (j : Json) : Option Backend := do
  let r ← j.fields? ["group", "balancingMode"]
  return {
    group := ← r.required? "group" text?
    balancingMode := ← r.optional? "balancingMode" text? }

def Backend.toJson (b : Backend) : Json := record [
  Member.always "group" (.text b.group),
  Member.unlessNone "balancingMode" .text b.balancingMode]

/-- A regional backend service. -/
structure BackendService where
  name : String
  network : Option String := none
  protocol : Option String := none
  loadBalancingScheme : Option String := none
  backends : List Backend := []
  selfLink : Option String := none
  deriving DecidableEq

def BackendService.fields : List String :=
  ["name", "network", "protocol", "loadBalancingScheme", "backends", "selfLink"]

def BackendService.ofJson? (j : Json) : Option BackendService := do
  let r ← j.fields? fields
  return {
    name := ← r.required? "name" text?
    network := ← r.optional? "network" text?
    protocol := ← r.optional? "protocol" text?
    loadBalancingScheme := ← r.optional? "loadBalancingScheme" text?
    backends := ← r.withDefault? "backends" (list? Backend.ofJson?) []
    selfLink := ← r.optional? "selfLink" text? }

def BackendService.toJson (b : BackendService) : Json := record [
  Member.always "name" (.text b.name),
  Member.unlessNone "network" .text b.network,
  Member.unlessNone "protocol" .text b.protocol,
  Member.unlessNone "loadBalancingScheme" .text b.loadBalancingScheme,
  Member.unlessNil "backends" Backend.toJson b.backends,
  Member.unlessNone "selfLink" .text b.selfLink]

/-! ## Forwarding rules -/

/-- A regional forwarding rule. -/
structure ForwardingRule where
  name : String
  address : Option String := none
  protocol : Option String := none
  allowGlobalAccess : Option Bool := none
  allPorts : Option Bool := none
  backendService : Option String := none
  network : Option String := none
  subnetwork : Option String := none
  loadBalancingScheme : Option String := none
  selfLink : Option String := none
  deriving DecidableEq

def ForwardingRule.fields : List String :=
  ["name", "IPAddress", "IPProtocol", "allowGlobalAccess", "allPorts", "backendService", "network",
    "subnetwork", "loadBalancingScheme", "selfLink"]

def ForwardingRule.ofJson? (j : Json) : Option ForwardingRule := do
  let r ← j.fields? fields
  return {
    name := ← r.required? "name" text?
    address := ← r.optional? "IPAddress" text?
    protocol := ← r.optional? "IPProtocol" text?
    allowGlobalAccess := ← r.optional? "allowGlobalAccess" bool?
    allPorts := ← r.optional? "allPorts" bool?
    backendService := ← r.optional? "backendService" text?
    network := ← r.optional? "network" text?
    subnetwork := ← r.optional? "subnetwork" text?
    loadBalancingScheme := ← r.optional? "loadBalancingScheme" text?
    selfLink := ← r.optional? "selfLink" text? }

def ForwardingRule.toJson (f : ForwardingRule) : Json := record [
  Member.always "name" (.text f.name),
  Member.unlessNone "IPAddress" .text f.address,
  Member.unlessNone "IPProtocol" .text f.protocol,
  Member.unlessNone "allowGlobalAccess" .bool f.allowGlobalAccess,
  Member.unlessNone "allPorts" .bool f.allPorts,
  Member.unlessNone "backendService" .text f.backendService,
  Member.unlessNone "network" .text f.network,
  Member.unlessNone "subnetwork" .text f.subnetwork,
  Member.unlessNone "loadBalancingScheme" .text f.loadBalancingScheme,
  Member.unlessNone "selfLink" .text f.selfLink]

/-! ## Service attachments -/

/-- A consumer that may connect, by project or by network, and how often. -/
structure ConsumerLimit where
  project : Option String := none
  network : Option String := none
  connectionLimit : UInt32 := 0
  deriving DecidableEq

def ConsumerLimit.ofJson? (j : Json) : Option ConsumerLimit := do
  let r ← j.fields? ["projectIdOrNum", "networkUrl", "connectionLimit"]
  return {
    project := ← r.optional? "projectIdOrNum" text?
    network := ← r.optional? "networkUrl" text?
    connectionLimit := ← r.withDefault? "connectionLimit" uint32? 0 }

def ConsumerLimit.toJson (c : ConsumerLimit) : Json := record [
  Member.unlessNone "projectIdOrNum" .text c.project,
  Member.unlessNone "networkUrl" .text c.network,
  Member.always "connectionLimit" (uint32 c.connectionLimit)]

/-- A service attachment: a forwarding rule made reachable for consumers of other projects. -/
structure ServiceAttachment where
  name : String
  producerForwardingRule : Option String := none
  /-- The service it publishes, by its newer name. -/
  targetService : Option String := none
  connectionPreference : Option String := none
  consumerAcceptLists : List ConsumerLimit := []
  /-- The subnetworks whose addresses stand in for those of consumers. -/
  natSubnets : List String := []
  enableProxyProtocol : Option Bool := none
  selfLink : Option String := none
  deriving DecidableEq

def ServiceAttachment.fields : List String :=
  ["name", "producerForwardingRule", "targetService", "connectionPreference", "consumerAcceptLists",
    "natSubnets", "enableProxyProtocol", "selfLink"]

def ServiceAttachment.ofJson? (j : Json) : Option ServiceAttachment := do
  let r ← j.fields? fields
  return {
    name := ← r.required? "name" text?
    producerForwardingRule := ← r.optional? "producerForwardingRule" text?
    targetService := ← r.optional? "targetService" text?
    connectionPreference := ← r.optional? "connectionPreference" text?
    consumerAcceptLists := ← r.withDefault? "consumerAcceptLists" (list? ConsumerLimit.ofJson?) []
    natSubnets := ← r.withDefault? "natSubnets" (list? text?) []
    enableProxyProtocol := ← r.optional? "enableProxyProtocol" bool?
    selfLink := ← r.optional? "selfLink" text? }

def ServiceAttachment.toJson (a : ServiceAttachment) : Json := record [
  Member.always "name" (.text a.name),
  Member.unlessNone "producerForwardingRule" .text a.producerForwardingRule,
  Member.unlessNone "targetService" .text a.targetService,
  Member.unlessNone "connectionPreference" .text a.connectionPreference,
  Member.unlessNil "consumerAcceptLists" ConsumerLimit.toJson a.consumerAcceptLists,
  Member.unlessNil "natSubnets" .text a.natSubnets,
  Member.unlessNone "enableProxyProtocol" .bool a.enableProxyProtocol,
  Member.unlessNone "selfLink" .text a.selfLink]

end ReplicaPorts.Compute
