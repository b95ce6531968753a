import ReplicaPorts.Json.Decode

/-!
# The annotation payload

What the owner of a workload asks for in its annotation: the ports to expose, who may connect, and
how the resources are named. `Payload.read?` reads the JSON text and checks nothing beyond its form;
`null` is no payload.
-/

set_option autoImplicit false

namespace ReplicaPorts

open Json

/-- The ports of one named port. Replica `i` is reached on `startingPort + i`, which leads to
`nodePort` on the machine of the replica and from there to `containerPort`. -/
structure PortEntry where
  nodePort : Int32 := 0
  containerPort : Int32 := 0
  startingPort : Int32 := 0
  deriving DecidableEq

def PortEntry.ofJson? (j : Json) : Option PortEntry := do
  let r ← j.fields? ["node_port", "container_port", "starting_port"]
  return {
    nodePort := ← r.withDefault? "node_port" int32? 0
    containerPort := ← r.withDefault? "container_port" int32? 0
    startingPort := ← r.withDefault? "starting_port" int32? 0 }

def PortEntry.toJson (p : PortEntry) : Json := record [
  Member.always "node_port" (int32 p.nodePort),
  Member.always "container_port" (int32 p.containerPort),
  Member.always "starting_port" (int32 p.startingPort)]

/-- A consumer that may connect, named by its network or by its project. -/
structure Consumer where
  networkPath : Option String := none
  projectName : Option String := none
  connectionLimit : UInt32 := 0
  deriving DecidableEq

namespace Consumer

/-- The network, if one is named; an empty text names none. -/
def network (c : Consumer) : Option String := c.networkPath.filter (· ≠ "")

/-- The project, if one is named; an empty text names none. -/
def project (c : Consumer) : Option String := c.projectName.filter (· ≠ "")

def ofJson? (j : Json) : Option Consumer := do
  let r ← j.fields? ["network_fqn", "project_id_or_num", "connection_limit"]
  return {
    networkPath := ← r.optional? "network_fqn" text?
    projectName := ← r.optional? "project_id_or_num" text?
    connectionLimit := ← r.withDefault? "connection_limit" uint32? 0 }

def toJson (c : Consumer) : Json := record [
  Member.unlessNone "network_fqn" .text c.networkPath,
  Member.unlessNone "project_id_or_num" .text c.projectName,
  Member.always "connection_limit" (uint32 c.connectionLimit)]

end Consumer

/-- What the annotation of a workload asks for. -/
structure Payload where
  namePrefix : String := ""
  /-- The subnetworks whose addresses stand in for those of consumers. -/
  natSubnets : List String := []
  consumers : List Consumer := []
  /-- The address of the forwarding rule, if a certain one is wanted. -/
  address : Option String := none
  globalAccess : Option Bool := none
  ports : Keyed String PortEntry := ∅
  deriving DecidableEq

namespace Payload

def fields : List String :=
  ["prefix", "nat_subnet_fqns", "consumer_accept_list", "ip", "global_access", "node_ports"]

def ofJson? (j : Json) : Option Payload := do
  let r ← j.fields? fields
  return {
    namePrefix := ← r.withDefault? "prefix" text? ""
    natSubnets := ← r.withDefault? "nat_subnet_fqns" (list? text?) []
    consumers := ← r.withDefault? "consumer_accept_list" (list? Consumer.ofJson?) []
    address := ← r.optional? "ip" text?
    globalAccess := ← r.optional? "global_access" bool?
    ports := ← r.withDefault? "node_ports" (keyed? PortEntry.ofJson?) ∅ }

def toJson (p : Payload) : Json := record [
  Member.always "prefix" (.text p.namePrefix),
  Member.always "nat_subnet_fqns" (.texts p.natSubnets),
  Member.always "consumer_accept_list" (.array (p.consumers.map Consumer.toJson)),
  Member.unlessNone "ip" .text p.address,
  Member.unlessNone "global_access" .bool p.globalAccess,
  Member.always "node_ports" (Member.ofKeyed PortEntry.toJson p.ports)]

/-- The distinct node ports in ascending order: the ports that a firewall has to let through. -/
def nodePorts (p : Payload) : List Int32 :=
  (Keyed.ofList (p.ports.values.map fun e => (e.nodePort, ()))).keys

/-- Reads a text that holds a payload or `null`. -/
def read? (raw : String) : Option (Option Payload) :=
  match ofText? raw with
  | some .null => some none
  | some j => (ofJson? j).map some
  | none => none

end Payload

end ReplicaPorts
