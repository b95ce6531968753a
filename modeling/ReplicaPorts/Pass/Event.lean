import ReplicaPorts.Pass.Resources
import ReplicaPorts.Pass.NodeService
import ReplicaPorts.Pass.Managed
import ReplicaPorts.Pass.Nodes

/-!
# One pass over a workload

A pass is started by an event that carries some state of a workload. Only the key of the workload
and whether it may be managed are taken from the event; everything else is decided on the workload
as it is stored when the pass reads it. `Pass.adopt` exposes a workload, `Pass.dismantle` takes its
resources down, and `Pass.letGo` lets a workload go that is not annotated any more. The finalizer
is put on before any resource is created and taken off after all are gone.
-/

set_option autoImplicit false

namespace ReplicaPorts.Pass

open Cluster

/-- How passes are made. -/
structure Plan where
  place : Compute.Location
  lookups : Nat := 8
  deriving DecidableEq

/-- Exposes the replicas of a workload as a payload asks; without ports there is nothing to do. -/
def expose (plan : Plan) (key : ObjectKey) (w : StatefulSet) (p : Payload) : Pass Unit := do
  unless p.ports.isEmpty do
    let names := Names.of p.namePrefix
    match selector? w with
    | none => throw (.step .service (.workload .matchLabels))
    | some selector =>
      let service : ObjectKey := ⟨key.space, names.service⟩
      during .service (NodeService.provide service (NodeService.wanted w service selector p))
      let machines ← during .nodes (replicaMachines plan.lookups key.space selector)
      let mappings ← during .payload (ofExcept .ports (PortRun.mappings p.ports machines))
      bringAll plan.place names p mappings

/-- Puts the finalizer on a workload that lacks it, then exposes its replicas. -/
def adopt (plan : Plan) (key : ObjectKey) (w : StatefulSet) (text : String) : Pass Unit := do
  unless isFinalized w do
    during .finalizer (cluster (.addFinalizer key finalizer))
  let p ← during .payload (ofExcept .payload (Payload.parse text))
  expose plan key w p

/-- Takes the finalizer off a workload. -/
def letGo (key : ObjectKey) : Pass Unit :=
  during .finalizer (cluster (.removeFinalizer key finalizer))

/-- Deletes the exposure service. The cluster does so itself once the workload is gone, so a failure
does not matter. -/
def dropService (key : ObjectKey) : Pass Unit :=
  tryCatch (cluster (.deleteService key)) fun _ => pure ()

/-- Takes the resources of a workload down, then lets the workload go. -/
def dismantle (key : ObjectKey) (text : String) : Pass Unit := do
  let p ← during .payload (ofExcept .payload (Payload.decode text))
  let names := Names.of p.namePrefix
  dropService ⟨key.space, names.service⟩
  removeAll names
  letGo key

/-- Does for a stored workload what has to be done. -/
def settle (plan : Plan) (key : ObjectKey) (w : StatefulSet) : Pass Unit :=
  match payloadText? w with
  | none => if isFinalized w then letGo key else pure ()
  | some text =>
    if isDeleted w then
      if isFinalized w then dismantle key text else pure ()
    else adopt plan key w text

/-- One pass for an event. -/
def ofEvent (plan : Plan) (event : StatefulSet) : Pass Unit := do
  if hasPayload event || isFinalized event then
    let space ← ofExcept .workload (event.metadata.space.elim (.error .space) .ok)
    let name ← ofExcept .workload (event.metadata.name.elim (.error .name) .ok)
    let key : ObjectKey := ⟨space, name⟩
    match ← cluster (.getStatefulSet key) with
    | none => pure ()
    | some w => settle plan key w

end ReplicaPorts.Pass
