/-!
# Names of resources

Every resource of a workload is named by the prefix of its payload and what the resource is for.
-/

set_option autoImplicit false

namespace ReplicaPorts

/-- The names of the resources of one workload. -/
structure Names where
  service : String
  firewall : String
  group : String
  backend : String
  rule : String
  attachment : String
  deriving DecidableEq, Repr

def Names.of (namePrefix : String) : Names :=
  let name := fun (purpose : String) => s!"{namePrefix}psc-portmapper-{purpose}"
  { service := name "nodeport"
    firewall := name "firewall"
    group := name "neg"
    backend := name "backend"
    rule := name "forwarding-rule"
    attachment := name "service-attachment" }

end ReplicaPorts
