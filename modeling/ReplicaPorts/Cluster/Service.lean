import ReplicaPorts.Cluster.Object
import ReplicaPorts.Cluster.ServiceSpec
import ReplicaPorts.Cluster.ServiceStatus

/-!
# Services

A service is a name for the ports of some pods.
-/

set_option autoImplicit false

namespace ReplicaPorts.Cluster

open Json

/-- A service: a name for the ports of some pods. -/
structure Service where
  metadata : Metadata := {}
  spec : Option ServiceSpec := none
  status : Option ServiceStatus := none
  deriving DecidableEq

def Service.ofJson? (j : Json) : Option Service := do
  let j ← object? j
  return {
    metadata := ← Metadata.ofObject? j
    spec := ← nullable? "spec" ServiceSpec.ofJson? j
    status := ← nullable? "status" ServiceStatus.ofJson? j }

def Service.toJson (s : Service) : Json := record [
  Member.always "apiVersion" (.text "v1"),
  Member.always "kind" (.text "Service"),
  Member.always "metadata" s.metadata.toJson,
  Member.unlessNone "spec" ServiceSpec.toJson s.spec,
  Member.unlessNone "status" ServiceStatus.toJson s.status]

end ReplicaPorts.Cluster
