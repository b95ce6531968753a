import ReplicaPorts.Compute.Path
import ReplicaPorts.Payload.Basic
import ReplicaPorts.Text.Quoted

/-!
# Checking a payload

`Payload.violations` lists everything that is wrong with a payload, consumers first, then the
subnetworks, then the ports: each of them by itself, and last those that start where another one
starts. A payload without violations is accepted.
-/

set_option autoImplicit false

namespace ReplicaPorts

/-- A port of a port entry. -/
inductive PortField where
  /-- The port on every machine. -/
  | nodePort
  /-- The port of the container. -/
  | containerPort
  /-- The port of the first replica. -/
  | startingPort
  deriving DecidableEq, Repr

namespace PortField

def name : PortField → String
  | nodePort => "node_port"
  | containerPort => "container_port"
  | startingPort => "starting_port"

def of (e : PortEntry) : PortField → Int32
  | nodePort => e.nodePort
  | containerPort => e.containerPort
  | startingPort => e.startingPort

/-- The fields in the order in which they are checked. -/
def all : List PortField := [nodePort, containerPort, startingPort]

end PortField

/-- Something that is wrong with a payload. -/
inductive Violation where
  /-- There is no payload. -/
  | noPayload
  /-- A consumer is named by its network and by its project. -/
  | twoIdentifiers (index : Nat)
  /-- A consumer is not named. -/
  | noIdentifier (index : Nat)
  /-- The network of a consumer is no path of a network. -/
  | badNetwork (index : Nat) (value : String)
  /-- There is no subnetwork. -/
  | noSubnets
  /-- A subnetwork is no path of a subnetwork. -/
  | badSubnet (index : Nat) (value : String)
  /-- A port is out of range. -/
  | badPort (name : String) (field : PortField) (value : Int32)
  /-- Two named ports start at one port. -/
  | sharedStart (first second : String) (port : Int32)
  deriving DecidableEq, Repr

def Violation.message : Violation → String
  | noPayload => "spec is nil"
  | twoIdentifiers i =>
    s!"network_fqn and project_id_or_num can't both be set in consumer_list[{i}]"
  | noIdentifier i => s!"either network_fqn or project_id_or_num must be set in consumer_list[{i}]"
  | badNetwork i value =>
    s!"invalid value for network_fqn ({Text.quoted value}) in consumer_list[{i}], expected format: "
      ++ "projects/<project-id>/global/networks/<network-name>"
  | noSubnets => "nat_subnet_fqns is empty"
  | badSubnet i value =>
    s!"invalid value for nat_subnet_fqns[{i}] ({Text.quoted value}), expected format: "
      ++ "projects/<project-id>/regions/<region-name>/subnetworks/<subnetwork-name>"
  | badPort name field value =>
    s!"invalid value for node_ports[{Text.quoted name}].{field.name} ({value.toInt}), "
      ++ "expected a port between 1 and 65535"
  | sharedStart first second port =>
    s!"node_ports[{Text.quoted first}] and node_ports[{Text.quoted second}] "
      ++ s!"share starting_port {port.toInt}"

/-- Violations in words, with semicolons between them. -/
def Violation.messages (vs : List Violation) : String := "; ".intercalate (vs.map message)

namespace Payload

def consumerViolation? (index : Nat) (c : Consumer) : Option Violation :=
  match c.network, c.project with
  | some _, some _ => some (.twoIdentifiers index)
  | none, none => some (.noIdentifier index)
  | some network, none =>
    if Compute.Path.hasForm Compute.Path.networkForm network then none
    else some (.badNetwork index network)
  | none, some _ => none

def consumerViolations (p : Payload) : List Violation :=
  p.consumers.zipIdx.filterMap fun (c, i) => consumerViolation? i c

def subnetViolations (p : Payload) : List Violation :=
  if p.natSubnets.isEmpty then [.noSubnets]
  else p.natSubnets.zipIdx.filterMap fun (value, i) =>
    if Compute.Path.hasForm Compute.Path.subnetworkForm value then none
    else some (.badSubnet i value)

def isPort (n : Int32) : Bool := 1 ≤ n.toInt && n.toInt ≤ 65535

def portViolations (p : Payload) : List Violation :=
  p.ports.toList.flatMap fun (name, e) =>
    PortField.all.filterMap fun field =>
      if isPort (field.of e) then none else some (.badPort name field (field.of e))

/-- The named ports that start where one before them starts. `seen` holds those before, last
first. -/
def sharedStarts (seen : List (Int32 × String)) : List (String × PortEntry) → List Violation
  | [] => []
  | (name, e) :: rest =>
    let more := sharedStarts ((e.startingPort, name) :: seen) rest
    match seen.lookup e.startingPort with
    | some other => .sharedStart other name e.startingPort :: more
    | none => more

def violations (p : Payload) : List Violation :=
  p.consumerViolations ++ p.subnetViolations ++ p.portViolations ++ sharedStarts [] p.ports.toList

/-- Why a text gives no accepted payload. -/
inductive Error where
  /-- The text is no payload by its form. -/
  | undecodable
  /-- The payload is missing or has violations. -/
  | invalid (violations : List Violation)
  deriving DecidableEq, Repr

/-- The error in words; the words of an undecodable text depend on where it goes wrong. -/
def Error.message? : Error → Option String
  | undecodable => none
  | invalid vs => some ("invalid spec: " ++ Violation.messages vs)

/-- Reads a payload without checking it: to take resources down, their names are enough. -/
def decode (raw : String) : Except Error Payload :=
  match read? raw with
  | none => .error .undecodable
  | some none => .error (.invalid [.noPayload])
  | some (some p) => .ok p

def parse (raw : String) : Except Error Payload :=
  match decode raw with
  | .error e => .error e
  | .ok p => if p.violations = [] then .ok p else .error (.invalid p.violations)

end Payload

end ReplicaPorts
