import ReplicaPorts.Cluster.StatefulSet

/-!
# Managed workloads

A workload is managed while it carries the annotation with the payload or the finalizer that keeps
it until its resources are gone.
-/

set_option autoImplicit false

namespace ReplicaPorts.Pass

open Cluster

/-- The name of the annotation that holds the payload. -/
def payloadKey : String := "0x5d.org/psc-portmapper"

/-- The finalizer that keeps a workload until its resources are gone. -/
def finalizer : String := "0x5d.org/psc-portmapper-finalizer"

/-- The text of the payload of a workload. -/
def payloadText? (w : StatefulSet) : Option String :=
  w.metadata.annotations.bind (·.get? payloadKey)

/-- Whether a workload asks to be managed. -/
def hasPayload (w : StatefulSet) : Bool := (payloadText? w).isSome

/-- Whether a workload carries the finalizer. -/
def isFinalized (w : StatefulSet) : Bool := w.metadata.finalizers.any (·.contains finalizer)

/-- Whether a workload is being deleted. -/
def isDeleted (w : StatefulSet) : Bool := w.metadata.deletionTimestamp.isSome

/-- The labels by which the pods of a workload are selected; an empty collection selects none. -/
def selector? (w : StatefulSet) : Option Labels := w.matchLabels.filter (!·.isEmpty)

end ReplicaPorts.Pass
