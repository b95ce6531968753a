import ReplicaPorts.Text.Cut

/-!
# Resource paths

A resource has a path of segments, from its project down. This module builds the paths, recognises
two of their forms and takes a path out of a URL that ends in it.
-/

set_option autoImplicit false

namespace ReplicaPorts.Compute

/-- The five kinds of resources that expose a workload, in the order in which one needs the one
before it. -/
inductive Kind where
  /-- Lets the traffic through to the machines. -/
  | firewall
  /-- Maps ports to ports of machines. -/
  | group
  /-- Puts a group behind a balancer. -/
  | backend
  /-- Gives a backend an address. -/
  | rule
  /-- Publishes a rule to other projects. -/
  | attachment
  deriving DecidableEq, Repr

namespace Kind

/-- The name of one resource of the kind in paths and error texts. -/
def singular : Kind → String
  | firewall => "firewall"
  | group => "networkEndpointGroup"
  | backend => "backendService"
  | rule => "forwardingRule"
  | attachment => "serviceAttachment"

/-- The collection that holds the resources of the kind. -/
def collection : Kind → String
  | firewall => "firewalls"
  | group => "networkEndpointGroups"
  | backend => "backendServices"
  | rule => "forwardingRules"
  | attachment => "serviceAttachments"

def label : Kind → String
  | firewall => "firewall"
  | group => "endpoint group"
  | backend => "backend service"
  | rule => "forwarding rule"
  | attachment => "service attachment"

end Kind

/-- Where resources live: a project and a region of it. -/
structure Location where
  /-- The project. -/
  project : String
  /-- The region. -/
  region : String
  deriving DecidableEq, Repr

namespace Path

def network (project name : String) : String := s!"projects/{project}/global/networks/{name}"

def subnetwork (project region name : String) : String :=
  s!"projects/{project}/regions/{region}/subnetworks/{name}"

def machine (project zone name : String) : String :=
  s!"projects/{project}/zones/{zone}/instances/{name}"

/-- The path of a collection: firewalls belong to the project, all else to a region of it. -/
def collection (place : Location) : Kind → String
  | .firewall => s!"projects/{place.project}/global/firewalls"
  | kind => s!"projects/{place.project}/regions/{place.region}/{kind.collection}"

def resource (place : Location) (kind : Kind) (name : String) : String :=
  s!"{collection place kind}/{name}"

/-- The first segment of every path, with the slash after it. -/
def root : List Char := "projects/".toList

/-- A value from the first place on where a path starts in it, or the value itself. -/
def relative (value : String) : String :=
  match Text.from? root value.toList with
  | some path => String.ofList path
  | none => value

/-- Whether a path starts somewhere in a value. -/
def occursIn (value : String) : Bool := (Text.from? root value.toList).isSome

/-- What a segment of a path has to be. -/
inductive Segment where
  /-- This word. -/
  | word (text : String)
  /-- Any text that is not empty. -/
  | name

def Segment.admits (segment : List Char) : Segment → Bool
  | .word text => segment == text.toList
  | .name => !segment.isEmpty

/-- Whether a text has the segments of a form, one for one. -/
def hasForm (form : List Segment) (value : String) : Bool :=
  let parts := Text.segments '/' value.toList
  parts.length == form.length && (parts.zip form).all fun (part, asked) => asked.admits part

def networkForm : List Segment :=
  [.word "projects", .name, .word "global", .word "networks", .name]

def subnetworkForm : List Segment :=
  [.word "projects", .name, .word "regions", .name, .word "subnetworks", .name]

end Path

end ReplicaPorts.Compute
