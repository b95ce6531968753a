import ReplicaPorts.Compute.Call
import ReplicaPorts.Compute.Firewall

/-!
# A Compute API in memory

A simulator keeps the resources of each kind and the endpoints of each group, lists the calls it
gets, and fails the calls it is told to fail. A resource can be created only once and only if what
it refers to exists, and deleted only when nothing refers to it; a group holds at most one endpoint
for each port. `Simulator.answer` is its handler of calls.
-/

set_option autoImplicit false

namespace ReplicaPorts.Compute

/-- What is stored: resources by kind and name, and endpoints by group. -/
structure Store where
  resources : (kind : Kind) → Keyed String kind.Model := fun _ => ∅
  /-- The endpoints of the groups, in the order in which they were attached. -/
  endpoints : Keyed String (List PortMapping) := ∅

namespace Store

/-- Puts other resources in the place of those of one kind. -/
def withResources (s : Store) (kind : Kind) (m : Keyed String kind.Model) : Store :=
  { s with resources := fun k => if h : k = kind then h ▸ m else s.resources k }

def has (s : Store) (kind : Kind) (name : String) : Bool := (s.resources kind).contains name

/-- Whether there is no resource of any kind. -/
def isEmpty (s : Store) : Bool :=
  [Kind.firewall, .group, .backend, .rule, .attachment].all fun kind => (s.resources kind).isEmpty

/-- The error about a resource that does not exist. -/
def absent (kind : Kind) (name : String) : Error := .notFound s!"{kind.singular} {name}"

/-! ## Creating -/

def modelOf (place : Location) (name : String) : (design : Design) → design.kind.Model
  | .firewall ports =>
    ({ name, direction := some "INGRESS", priority := some 1000, allowed := allowing ports }
      : Firewall)
  | .group => ({ name, endpointType := some portMappingType } : EndpointGroup)
  | .backend group =>
    ({ name, protocol := some "TCP", loadBalancingScheme := some "INTERNAL",
       backends := [{ group := Path.resource place .group group,
                      balancingMode := some "CONNECTION" }] } : BackendService)
  | .rule backend address globalAccess =>
    ({ name, address, protocol := some "TCP",
       allowGlobalAccess := if globalAccess then some true else none,
       allPorts := some true,
       backendService := some (Path.resource place .backend backend),
       loadBalancingScheme := some "INTERNAL" } : ForwardingRule)
  | .attachment rulePath consumers natSubnets =>
    ({ name, producerForwardingRule := some rulePath,
       connectionPreference := some "ACCEPT_MANUAL",
       consumerAcceptLists := consumers, natSubnets } : ServiceAttachment)

/-- The name of the resource at a path: its last segment. -/
def nameAt (path : String) : String := String.ofList (Text.afterLast '/' path.toList)

/-- The error about the resource that a design refers to, if that one does not exist. -/
def dangling? (s : Store) : Design → Option Error
  | .backend group => if s.has .group group then none else some (absent .group group)
  | .rule backend _ _ => if s.has .backend backend then none else some (absent .backend backend)
  | .attachment rulePath _ _ =>
    if s.has .rule (nameAt rulePath) then none else some (absent .rule rulePath)
  | _ => none

/-- Stores a new resource; a new group has no endpoints. -/
def create (place : Location) (name : String) (design : Design) (s : Store) :
    Except Error Unit × Store :=
  match s.dangling? design with
  | some e => (.error e, s)
  | none =>
    if s.has design.kind name then
      (.error (.alreadyExists s!"{design.kind.singular} {name}"), s)
    else
      let s' := s.withResources design.kind
        ((s.resources design.kind).insert name (modelOf place name design))
      match design with
      | .group => (.ok (), { s' with endpoints := s'.endpoints.insert name [] })
      | _ => (.ok (), s')

/-! ## Deleting -/

/-- The name of a resource that refers to a resource, the first in the order of names. -/
def userOf? (place : Location) (s : Store) (kind : Kind) (name : String) : Option String :=
  let path := Path.resource place kind name
  match kind with
  | .group =>
    ((s.resources .backend).values.find? fun b => b.backends.any (·.group == path)).map (·.name)
  | .backend =>
    ((s.resources .rule).values.find? fun r => r.backendService == some path).map (·.name)
  | .rule =>
    ((s.resources .attachment).values.find? fun a =>
      a.producerForwardingRule == some path).map (·.name)
  | _ => none

/-- Deletes a resource that nothing refers to; the endpoints of a group go with it. -/
def delete (place : Location) (kind : Kind) (name : String) (s : Store) :
    Except Error Unit × Store :=
  match s.userOf? place kind name with
  | some user => (.error (.api 400 s!"{kind.singular} {name} is in use by {user}"), s)
  | none =>
    if s.has kind name then
      let s' := s.withResources kind ((s.resources kind).erase name)
      (.ok (), if kind = .group then { s' with endpoints := s'.endpoints.erase name } else s')
    else (.error (absent kind name), s)

/-! ## Endpoints -/

/-- Attaches mappings one after the other to those attached already. A mapping that is there is
passed over; the first one whose port is taken ends the work, and those before it stay attached. -/
def attachAll (attached : List PortMapping) :
    List PortMapping → Except Error Unit × List PortMapping
  | [] => (.ok (), attached)
  | m :: ms =>
    if m ∈ attached then attachAll attached ms
    else if attached.any (·.port == m.port) then
      (.error (.api 400 s!"client destination port {m.port.toInt} already in use"), attached)
    else attachAll (attached ++ [m]) ms

/-- Puts a firewall into the store, in place of one with its name. -/
def putFirewall (s : Store) (f : Firewall) : Store :=
  s.withResources .firewall ((s.resources .firewall).insert f.name f)

/-- Puts a group with endpoints into the store, in place of one with its name. -/
def putGroup (s : Store) (name : String) (mappings : List PortMapping) : Store :=
  let s := s.withResources .group
    ((s.resources .group).insert name { name, endpointType := some portMappingType })
  { s with endpoints := s.endpoints.insert name mappings }

/-- The endpoints of a group; none if it does not exist. -/
def mappingsIn (s : Store) (group : String) : List PortMapping :=
  (s.endpoints.get? group).getD []

/-! ## Calls -/

def perform (place : Location) : (c : Call) → Store → c.Answer × Store
  | .get kind name, s =>
    (match (s.resources kind).get? name with
      | some m => .ok m
      | none => .error (absent kind name), s)
  | .create name design, s => s.create place name design
  | .updateFirewall name ports, s =>
    match (s.resources .firewall).get? name with
    | some f => (.ok (), s.withResources .firewall
        ((s.resources .firewall).insert name { f with allowed := allowing ports }))
    | none => (.error (absent .firewall name), s)
  | .delete kind name, s => s.delete place kind name
  | .listEndpoints group, s =>
    (match s.endpoints.get? group with
      | some mappings => .ok mappings
      | none => .error (absent .group group), s)
  | .attachEndpoints group mappings, s =>
    match s.endpoints.get? group with
    | some attached =>
      let (answer, attached) := attachAll attached mappings
      (answer, { s with endpoints := s.endpoints.insert group attached })
    | none => (.error (absent .group group), s)
  | .detachEndpoints group mappings, s =>
    match s.endpoints.get? group with
    | some attached => (.ok (), { s with
        endpoints := s.endpoints.insert group (attached.filter (· ∉ mappings)) })
    | none => (.error (absent .group group), s)

end Store

/-- A Compute API in memory. -/
structure Simulator where
  place : Location
  store : Store := {}
  /-- The calls that fail, by name, and the status they fail with. -/
  failures : Keyed String Nat := ∅
  calls : List Call := []

namespace Simulator

/-- The error that a call is told to fail with. -/
def injected? (s : Simulator) (c : Call) : Option Error :=
  (s.failures.get? c.method).map fun status =>
    if status = 404 then .notFound s!"{c.method} {c.target}"
    else if status = 409 then .alreadyExists s!"{c.method} {c.target}"
    else .api status s!"injected failure in {c.method} for {c.target}"

/-- Notes a call, then fails it if told so, and performs it otherwise. -/
def answer : Handler Compute.calls Simulator := fun c s =>
  let s := { s with calls := s.calls ++ [c] }
  match s.injected? c with
  | some e => (.error e, s)
  | none =>
    let (result, store) := s.store.perform s.place c
    (result, { s with store })

/-- Makes every later call of a name fail with a status. -/
def inject (s : Simulator) (method : String) (status : Nat) : Simulator :=
  { s with failures := s.failures.insert method status }

def heal (s : Simulator) : Simulator := { s with failures := ∅ }

def forgetCalls (s : Simulator) : Simulator := { s with calls := [] }

end Simulator

end ReplicaPorts.Compute
