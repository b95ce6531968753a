import ReplicaPorts.Cluster.Memory
import ReplicaPorts.Compute.Simulator
import ReplicaPorts.Pass.Basic

/-!
# A world in memory

A cluster and a Compute API in memory answer what passes ask. In `World.answer` no time passes: a
lookup of a node is one call, and the nodes ahead are left alone.
-/

set_option autoImplicit false

namespace ReplicaPorts.Pass

/-- A cluster and a Compute API in memory. -/
structure World where
  cluster : Cluster.Memory := {}
  compute : Compute.Simulator

namespace World

/-- Answers a call to the cluster. -/
def answerCluster : Handler Cluster.calls World := fun c w =>
  let (answer, cluster) := w.cluster.answer c
  (answer, { w with cluster })

/-- Answers a call to the Compute API. -/
def answerCompute : Handler Compute.calls World := fun c w =>
  let (answer, compute) := w.compute.answer c
  (answer, { w with compute })

/-- Answers an ask of a pass. -/
def answer : Handler asks World
  | .cluster c, w => w.answerCluster c
  | .compute c, w => w.answerCompute c
  | .node name _, w => w.answerCluster (.getNode name)

/-- Forgets the calls. -/
def forgetCalls (w : World) : World :=
  { w with cluster := { w.cluster with calls := [] }, compute := w.compute.forgetCalls }

end World

end ReplicaPorts.Pass
