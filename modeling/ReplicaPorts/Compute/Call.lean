import ReplicaPorts.Compute.Error
import ReplicaPorts.Compute.Model
import ReplicaPorts.Compute.Path
import ReplicaPorts.Program

/-!
# Calls to the Compute API

What can be asked of the Compute API: to get, create and delete a resource of each kind, to give a
firewall other ports, and to list, attach and detach the endpoints of a group. A `Design` is what a
resource is created from.
-/

set_option autoImplicit false

namespace ReplicaPorts.Compute

abbrev Kind.Model : Kind → Type
  | firewall => Firewall
  | group => EndpointGroup
  | backend => BackendService
  | rule => ForwardingRule
  | attachment => ServiceAttachment

def Kind.nameOf : (kind : Kind) → kind.Model → String
  | .firewall, m => m.name
  | .group, m => m.name
  | .backend, m => m.name
  | .rule, m => m.name
  | .attachment, m => m.name

def Kind.toJson : (kind : Kind) → kind.Model → Json
  | .firewall => Firewall.toJson
  | .group => EndpointGroup.toJson
  | .backend => BackendService.toJson
  | .rule => ForwardingRule.toJson
  | .attachment => ServiceAttachment.toJson

def Kind.ofJson? : (kind : Kind) → Json → Option kind.Model
  | .firewall => Firewall.ofJson?
  | .group => EndpointGroup.ofJson?
  | .backend => BackendService.ofJson?
  | .rule => ForwardingRule.ofJson?
  | .attachment => ServiceAttachment.ofJson?

/-- What a resource is created from. -/
inductive Design where
  | firewall (ports : List Int32)
  | group
  | backend (group : String)
  | rule (backend : String) (address : Option String) (globalAccess : Bool)
  | attachment (rulePath : String) (consumers : List ConsumerLimit) (natSubnets : List String)
  deriving DecidableEq

/-- The kind of the resource that a design describes. -/
def Design.kind : Design → Kind
  | firewall _ => .firewall
  | group => .group
  | backend _ => .backend
  | rule _ _ _ => .rule
  | attachment _ _ _ => .attachment

/-- A call to the Compute API. -/
inductive Call where
  | get (kind : Kind) (name : String)
  | create (name : String) (design : Design)
  | updateFirewall (name : String) (ports : List Int32)
  | delete (kind : Kind) (name : String)
  | listEndpoints (group : String)
  | attachEndpoints (group : String) (mappings : List PortMapping)
  | detachEndpoints (group : String) (mappings : List PortMapping)
  deriving DecidableEq

namespace Call

abbrev Value : Call → Type
  | get kind _ => kind.Model
  | listEndpoints _ => List PortMapping
  | _ => Unit

abbrev Answer (c : Call) : Type := Except Error c.Value

/-- The word for a kind in the names of calls. -/
def kindWord : Kind → String
  | .firewall => "firewall"
  | .group => "neg"
  | .backend => "backend_service"
  | .rule => "forwarding_rule"
  | .attachment => "service_attachment"

def method : Call → String
  | get kind _ => "get_" ++ kindWord kind
  | create _ .group => "create_portmap_neg"
  | create _ design => "create_" ++ kindWord design.kind
  | updateFirewall _ _ => "update_firewall"
  | delete kind _ => "delete_" ++ kindWord kind
  | listEndpoints _ => "list_endpoints"
  | attachEndpoints _ _ => "attach_endpoints"
  | detachEndpoints _ _ => "detach_endpoints"

/-- The name of the resource that a call is about. -/
def target : Call → String
  | get _ name => name
  | create name _ => name
  | updateFirewall name _ => name
  | delete _ name => name
  | listEndpoints group => group
  | attachEndpoints group _ => group
  | detachEndpoints group _ => group

def isWrite : Call → Bool
  | get _ _ => false
  | listEndpoints _ => false
  | _ => true

end Call

/-- The calls to the Compute API as a signature. -/
abbrev calls : Signature where
  Op := Call
  Answer := Call.Answer

def request (c : Call) : Program calls c.Answer := Program.call (S := calls) c

end ReplicaPorts.Compute
